import Webform.Proofs.Json.Rewriting

/-!
# What texts mean

`Means d u v` says of a text of the grammar which value it stands for, and that it opens at most `d` brackets at a time. Its numbers
are integers of 64 bits, and an object in which a key is repeated stands for members with the last value of each key, in order of
first occurrence. The reader of free values makes of a text what it means (`Means.gives`).
-/

namespace Webform.Json

/-- The entry is one of an object and has this key, up to what its value is. -/
structure EntryText.HasKey (e : EntryText) (key : String) : Prop where
  names : e.Names key
  before : IsBlank e.before
  after : IsBlank e.after

theorem EntryText.HasKey.fits {e : EntryText} {key : String} (h : e.HasKey key) : e.Fits .object := h.names.fits h.before h.after

/-- The text means the value, without blanks around it, and opens at most so many brackets at a time. -/
inductive Means : Nat → List Char → Value → Prop where
  | null (d : Nat) : Means d ['n', 'u', 'l', 'l'] .null
  | isTrue (d : Nat) : Means d ['t', 'r', 'u', 'e'] (.bool true)
  | isFalse (d : Nat) : Means d ['f', 'a', 'l', 's', 'e'] (.bool false)
  | string (d : Nat) {u s : List Char} : Spells u s → Means d ('"' :: (u ++ ['"'])) (.string (.ofList s))
  | integer (d : Nat) {i : Int} : Number.Fits i → Means d (integerToList i) (.number (.integer i))
  | array {d : Nat} {gap : List Char} {es : List EntryText} {vs : List Value} :
      IsBlank gap → es.length = vs.length → (∀ e ∈ es, e.Fits .list) → (∀ p ∈ es.zip vs, Means d p.1.value p.2) →
        Means (d + 1) (Bracket.list.around gap es) (.array vs)
  | object {d : Nat} {gap : List Char} {es : List EntryText} {pairs ms : Members} :
      IsBlank gap → es.length = pairs.length → (∀ p ∈ es.zip pairs, p.1.HasKey p.2.1) →
        (∀ p ∈ es.zip pairs, Means d p.1.value p.2.2) → pairs.Collects ms → Means (d + 1) (Bracket.object.around gap es) (.object ms)

/-- The text of an object means the members that its entries make. -/
theorem Means.ofPairs {d : Nat} {gap : List Char} {es : List EntryText} {pairs : Members} (hgap : IsBlank gap)
    (h : List.Forall₂ (fun e p => e.HasKey p.1 ∧ Means d e.value p.2) es pairs) :
    Means (d + 1) (Bracket.object.around gap es) (.object (Object.ofPairs pairs).members) := by
  obtain ⟨hlength, hentries⟩ := List.forall₂_iff_zip.1 h
  exact .object hgap hlength (fun p hp => (hentries hp).1) (fun p hp => (hentries hp).2) (Object.collects_ofPairs pairs)

/-! ## Texts that mean something are JSON -/

theorem isWhole_toDigits (n : Nat) : IsWhole (Nat.toDigits 10 n) := by
  obtain ⟨c, cs, hcs, hc⟩ := exists_head_toDigits n
  by_cases hzero : c = '0'
  · subst hzero
    rw [eq_zero_of_toDigits hcs, Nat.toDigits_zero]
    exact .zero
  · rw [hcs]
    refine .digits hc hzero fun d hd => isDigit_of_mem_toDigits (n := n) ?_
    rw [hcs]
    exact List.mem_cons_of_mem c hd

theorem isUnsigned_toDigits (n : Nat) : IsUnsigned (Nat.toDigits 10 n) := by
  have h := IsUnsigned.of (isWhole_toDigits n) .none .none
  rwa [List.append_nil, List.append_nil] at h

theorem isValue_integerToList (i : Int) : IsValue (integerToList i) := by
  unfold integerToList
  split
  · exact .negative (isUnsigned_toDigits _)
  · exact .number (isUnsigned_toDigits _)

/-- What each of two lists of the same length has in its place is in the zipped list. -/
theorem exists_mem_zip {α β : Type} {as : List α} {bs : List β} (h : as.length = bs.length) {a : α} (ha : a ∈ as) :
    ∃ b, (a, b) ∈ as.zip bs := by
  rw [← List.map_fst_zip (Nat.le_of_eq h)] at ha
  obtain ⟨⟨a', b⟩, hmem, rfl⟩ := List.mem_map.1 ha
  exact ⟨b, hmem⟩

theorem Means.isValue {d : Nat} {u : List Char} {v : Value} (h : Means d u v) : IsValue u := by
  induction h with
  | null => exact .null
  | isTrue => exact .isTrue
  | isFalse => exact .isFalse
  | string _ hs => exact .string hs.isStringBody
  | integer => exact isValue_integerToList _
  | array hgap hlength hfits _ ih =>
    refine .entries .list hgap hfits fun e he => ?_
    obtain ⟨v, hmem⟩ := exists_mem_zip hlength he
    exact ih _ hmem
  | object hgap hlength hkeys _ _ ih =>
    refine .entries .object hgap (fun e he => ?_) fun e he => ?_
    all_goals obtain ⟨p, hmem⟩ := exists_mem_zip hlength he
    · exact (hkeys _ hmem).fits
    · exact ih _ hmem

/-! ## Reading -/

section Gives

variable {d : Nat} {gap : List Char} {es : List EntryText}

/-- The number is read to the end of its text. -/
theorem gives_integer (d : Nat) {i : Int} (hi : Number.Fits i) :
    Gives readValue d (integerToList i) (.number (.integer i)) := by
  rw [Gives, readValue, readValueWithin]
  rcases scanNumber_integerToList hi .nil with ⟨t, htext, hscan⟩ | ⟨c, t, htext, hc, hscan⟩
  · rw [List.append_nil] at hscan
    rw [htext]
    exact Scan.as_eq_ok_iff.2 ⟨_, hscan, rfl⟩
  · have hne := fun d (hd : isDigit d = false) => ne_of_isDigit hc hd
    have hskip : skipSpace (c :: t) = c :: t := List.dropWhile_cons_of_neg (by simp [isSpace_eq_false_of_isDigit hc])
    rw [List.append_nil] at hscan
    rw [htext, hskip]
    simp [hne 'n' (by decide), hne 't' (by decide), hne 'f' (by decide), hne '"' (by decide), hne '-' (by decide),
      hne '[' (by decide), hne '{' (by decide), hc, hscan, Scan.as]

/-- The items of a list are read one by one. -/
theorem gives_array (hgap : IsBlank gap) (hfits : ∀ e ∈ es, e.Fits .list) (hvalues : ∀ e ∈ es, IsValue e.value) {vs : List Value}
    (h : List.Forall₂ (fun e v => Gives readValue d e.value v) es vs) :
    Gives readValue (d + 1) (Bracket.list.around gap es) (.array vs) := by
  rw [Gives, readValue, readValueWithin]
  refine Scan.as_eq_ok_iff.2 ⟨vs, ?_, rfl⟩
  exact (readElements_around hgap hfits hvalues (fun e he => local_readValue (hvalues e he)) (List.append_nil _)
    (Nat.lt_succ_of_lt (Nat.lt_succ_self _)) vs []).2 ⟨h, rfl⟩

/-- Entries lead from the object before them to this with the pairs inserted. -/
theorem leads_insertsFree {pairs : Members}
    (h : List.Forall₂ (fun e p => e.Names p.1 ∧ Gives readValue d e.value p.2) es pairs) (acc : Object) :
    Leads (InsertsFree d) es acc (pairs.foldl (fun o p => o.insert p.1 p.2) acc) := by
  induction h generalizing acc with
  | nil => exact .nil acc
  | cons hp _ ih => exact .cons hp.1 ⟨_, hp.2, rfl⟩ (ih _)

/-- The members of an object are read one by one and inserted in order. -/
theorem gives_object (hgap : IsBlank gap) (hfits : ∀ e ∈ es, e.Fits .object) (hvalues : ∀ e ∈ es, IsValue e.value) {pairs : Members}
    (h : List.Forall₂ (fun e p => e.Names p.1 ∧ Gives readValue d e.value p.2) es pairs) :
    Gives readValue (d + 1) (Bracket.object.around gap es) (.object (Object.ofPairs pairs).members) := by
  rw [Gives, readValue, readValueWithin]
  refine Scan.as_eq_ok_iff.2 ⟨.ofPairs pairs, ?_, rfl⟩
  exact (readFreeObject_around hgap hfits (fun e he => local_readValue (hvalues e he)) (List.append_nil _)
    (Nat.lt_succ_of_lt (Nat.lt_succ_self _)) _ []).2 ⟨leads_insertsFree h {}, rfl⟩

end Gives

/-- A text is read as what it means. -/
theorem Means.gives {d : Nat} {u : List Char} {v : Value} (h : Means d u v) : Gives readValue d u v := by
  induction h with
  | null =>
    rw [Gives, readValue, readValueWithin]
    rfl
  | isTrue =>
    rw [Gives, readValue, readValueWithin]
    rfl
  | isFalse =>
    rw [Gives, readValue, readValueWithin]
    rfl
  | string _ hs =>
    rw [Gives, readValue, readValueWithin]
    exact Scan.as_eq_ok_iff.2 ⟨_, scanString_append hs [], rfl⟩
  | integer d hi => exact gives_integer d hi
  | array hgap hlength hfits hitems ih =>
    refine gives_array hgap hfits (fun e he => ?_) (List.forall₂_iff_zip.2 ⟨hlength, fun hp => ih _ hp⟩)
    obtain ⟨v, hmem⟩ := exists_mem_zip hlength he
    exact (hitems _ hmem).isValue
  | object hgap hlength hkeys hmembers hcollects ih =>
    obtain rfl := hcollects.eq_ofPairs
    refine gives_object hgap (fun e he => ?_) (fun e he => ?_)
      (List.forall₂_iff_zip.2 ⟨hlength, fun hp => ⟨(hkeys _ hp).names, ih _ hp⟩⟩)
    all_goals obtain ⟨p, hmem⟩ := exists_mem_zip hlength he
    · exact (hkeys _ hmem).fits
    · exact (hmembers _ hmem).isValue

/-! ## Objects -/

namespace Codec

/-- The members of an object are read where the object is read as a free value. -/
theorem read_members_eq_ok_iff {lim : Limits} {cs rest : List Char} {o : Object} :
    members.read lim cs = .ok (o, rest) ↔ readValue lim cs = .ok (.object o.members, rest) := by
  constructor
  · intro h
    simp only [members] at h
    split at h
    · rename_i t ht
      obtain ⟨d, hd, hbody⟩ := of_enter_eq_ok h
      rw [readValue, readValueWithin, ht, hd]
      exact Scan.as_eq_ok_iff.2 ⟨o, hbody, rfl⟩
    · cases h
  · intro h
    have hfree := readFree_of_readValue h
    generalize hv : Value.object o.members = v at hfree
    cases hfree with
    | object ht hd hbody =>
      obtain rfl := Object.ext (Value.object.inj hv)
      simp only [members, ht, enter, hd]
      exact hbody
    | _ => cases hv

theorem local_members : Local members.read :=
  local_readValue.trans (Q := fun v o => v = .object o.members) fun lim cs o rest => by
    simp [read_members_eq_ok_iff]

end Codec

/-- The text is that of an object with the members, in order and with keys that may be repeated, and opens no more brackets than a
text may. -/
structure ObjectText.Lists (t : ObjectText) (pairs : Members) : Prop where
  before : IsBlank t.before
  gap : IsBlank t.gap
  entries : List.Forall₂ (fun e p => e.HasKey p.1 ∧ Means 126 e.value p.2) t.entries pairs
  after : IsBlank t.after

theorem ObjectText.Lists.means {t : ObjectText} {pairs : Members} (h : t.Lists pairs) :
    Means 127 (Bracket.object.around t.gap t.entries) (.object (Object.ofPairs pairs).members) := .ofPairs h.gap h.entries

end Webform.Json
