import Mathlib.Data.List.DropRight
import Webform.Proofs.Json.Codecs
import Webform.Proofs.Json.Depth

/-!
# What readers yield

A reader `Yields` a property when all that it reads has it, whatever the text was. Readers of lists and records pass on what the
readers of their entries yield. A value that is read opens no more brackets than the limit allows, and no two members of an
object in it share a key, though they may in the text.
-/

namespace Webform.Json

/-- All that the reader reads has the property, which may depend on how many brackets may still be opened. -/
def Yields {α : Type} (r : Reader α) (P : Nat → α → Prop) : Prop :=
  ∀ lim cs a rest, r lim cs = .ok (a, rest) → P lim.depth a

/-! ## Readers taken apart -/

section Readers

variable {α β σ : Type}

theorem Scan.as_eq_ok_iff {x : Scan α} {f : α → β} {b : β} {rest : List Char} :
    x.as f = .ok (b, rest) ↔ ∃ a, x = .ok (a, rest) ∧ f a = b := by
  unfold as
  split
  · simp
  · simp only [Except.ok.injEq, Prod.mk.injEq]
    constructor
    · rintro ⟨hb, rfl⟩
      exact ⟨_, ⟨rfl, rfl⟩, hb⟩
    · rintro ⟨_, ⟨rfl, rfl⟩, hb⟩
      exact ⟨hb, rfl⟩

theorem yielding_eq_ok_iff {a b : α} {x : Except Failure (List Char)} {rest : List Char} :
    yielding a x = .ok (b, rest) ↔ x = .ok rest ∧ a = b := by
  unfold yielding
  split <;> simp_all [and_comm]

/-- A bracket that was opened is one less to open. -/
theorem of_enter_eq_ok {lim : Limits} {cs : List Char} {body : Limits → Scan α} {a : α} {rest : List Char}
    (h : enter lim cs body = .ok (a, rest)) : ∃ d, lim.depth = d + 1 ∧ body ⟨lim.entries, d⟩ = .ok (a, rest) := by
  unfold enter at h
  split at h
  · cases h
  · rename_i d hd
    exact ⟨d, hd, h⟩

/-- The elements of a list have what the reader of an element gives them. -/
theorem forall_mem_of_readElements {element : List Char → Scan α} {P : α → Prop}
    (h : ∀ cs a rest, element cs = .ok (a, rest) → P a) {n : Nat} {first : Bool} {cs rest : List Char} {as : List α}
    (hread : readElements element n first cs = .ok (as, rest)) : ∀ a ∈ as, P a := by
  induction n generalizing first cs as with
  | zero => cases hread
  | succ n ih =>
    unfold readElements at hread
    split at hread
    · cases hread
    · split at hread
      · cases hread
      · cases hread
        simp
    · split at hread
      · cases hread
      · rename_i a r ha
        split at hread
        · cases hread
        · rename_i as' r' has
          cases hread
          intro b hb
          rcases List.mem_cons.1 hb with rfl | hb
          · exact h _ _ _ ha
          · exact ih has b hb

/-- What the reader of a member keeps, the reader of all members does. -/
theorem of_readMembers {member : σ → String → List Char → Scan σ} {I : σ → Prop}
    (h : ∀ a key cs b rest, I a → member a key cs = .ok (b, rest) → I b) {n : Nat} {first : Bool} {cs rest : List Char} {a b : σ}
    (ha : I a) (hread : readMembers member n first a cs = .ok (b, rest)) : I b := by
  induction n generalizing first cs a with
  | zero => cases hread
  | succ n ih =>
    unfold readMembers at hread
    split at hread
    · cases hread
    · cases hread
      exact ha
    · split at hread
      · cases hread
      · split at hread
        · cases hread
        · rename_i a' r' hmember
          exact ih (h _ _ _ _ _ ha hmember) hread

end Readers

/-! ## Free values -/

/-- No two members of an object share a key, on any level. -/
inductive Value.Keyed : Value → Prop where
  | null : Keyed .null
  | bool (b : Bool) : Keyed (.bool b)
  | number (n : Number) : Keyed (.number n)
  | string (s : String) : Keyed (.string s)
  | array {vs : List Value} : (∀ v ∈ vs, Keyed v) → Keyed (.array vs)
  | object {ms : Members} : (ms.map (·.1)).Nodup → (∀ m ∈ ms, Keyed m.2) → Keyed (.object ms)

/-- All numbers are integers of 64 bits, on any level. -/
inductive Value.Integral : Value → Prop where
  | null : Integral .null
  | bool (b : Bool) : Integral (.bool b)
  | integer {i : Int} : Number.Fits i → Integral (.number (.integer i))
  | string (s : String) : Integral (.string s)
  | array {vs : List Value} : (∀ v ∈ vs, Integral v) → Integral (.array vs)
  | object {ms : Members} : (∀ m ∈ ms, Integral m.2) → Integral (.object ms)

namespace Value

theorem Keyed.exact {v : Value} (h : v.Keyed) (hintegral : v.Integral) : v.Exact := by
  induction h with
  | null => exact .null
  | bool b => exact .bool b
  | number n =>
    cases hintegral with
    | integer hi => exact .integer hi
  | string s => exact .string s
  | array _ ih =>
    cases hintegral with
    | array hvs => exact .array fun v hv => ih v hv (hvs v hv)
  | object hkeys _ ih =>
    cases hintegral with
    | object hms => exact .object hkeys fun m hm => ih m hm (hms m hm)

end Value

/-- The members of an object as they are read: the keys within their values are distinct too, and these open at most `d` brackets. -/
structure Object.AsRead (d : Nat) (o : Object) : Prop where
  keyed : ∀ m ∈ o.members, m.2.Keyed
  depth : ∀ m ∈ o.members, m.2.depth ≤ d

theorem Object.AsRead.empty (d : Nat) : AsRead d {} := ⟨by simp, by simp⟩

theorem Object.AsRead.insert {d : Nat} {o : Object} (h : o.AsRead d) (key : String) {v : Value} (hv : v.Keyed ∧ v.depth ≤ d) :
    (o.insert key v).AsRead d where
  keyed m hm := by
    rcases Members.eq_or_mem_of_mem_insert hm with rfl | hm
    · exact hv.1
    · exact h.keyed m hm
  depth m hm := by
    rcases Members.eq_or_mem_of_mem_insert hm with rfl | hm
    · exact hv.2
    · exact h.depth m hm

/-- An object of free values is read as its reader of values reads. -/
theorem asRead_of_readFreeObject {value : List Char → Scan Value} {d : Nat}
    (h : ∀ cs v rest, value cs = .ok (v, rest) → v.Keyed ∧ v.depth ≤ d) {entries : Nat} {cs rest : List Char} {o : Object}
    (hread : readFreeObject value entries cs = .ok (o, rest)) : o.AsRead d := by
  unfold readFreeObject at hread
  split at hread
  · cases hread
  · rename_i o' r hmembers
    have hkept : o'.AsRead d := by
      refine of_readMembers (I := Object.AsRead d) (fun a key cs b rest ha hmember => ?_) (.empty d) hmembers
      unfold readFreeMember at hmember
      split at hmember
      · cases hmember
      · split at hmember
        · cases hmember
        · rename_i v r hv
          cases hmember
          exact ha.insert key (h _ _ _ hv)
    split at hread
    · cases hread
    · cases hread
      exact hkept

/-- What is read as a free value, and where: `null` stands at an `n`, and the entries of a list or an object are read one bracket
further in. -/
inductive ReadFree (lim : Limits) (cs rest : List Char) : Value → Prop where
  | null {t : List Char} : skipSpace cs = 'n' :: t → ReadFree lim cs rest .null
  | bool (b : Bool) : ReadFree lim cs rest (.bool b)
  | number (n : Number) : ReadFree lim cs rest (.number n)
  | string (s : String) : ReadFree lim cs rest (.string s)
  | array {t : List Char} {d : Nat} {vs : List Value} : skipSpace cs = '[' :: t → lim.depth = d + 1 →
      readElements (readValue ⟨lim.entries, d⟩) lim.entries true t = .ok (vs, rest) → ReadFree lim cs rest (.array vs)
  | object {t : List Char} {d : Nat} {o : Object} : skipSpace cs = '\x7b' :: t → lim.depth = d + 1 →
      readFreeObject (readValue ⟨lim.entries, d⟩) lim.entries t = .ok (o, rest) → ReadFree lim cs rest (.object o.members)

/-- The reader of free values goes by the first character. -/
theorem readFree_of_readValue {lim : Limits} {cs rest : List Char} {v : Value} (h : readValue lim cs = .ok (v, rest)) :
    ReadFree lim cs rest v := by
  unfold readValue readValueWithin at h
  split at h
  · cases h
  · rename_i t ht
    obtain ⟨-, rfl⟩ := yielding_eq_ok_iff.1 h
    exact .null ht
  · obtain ⟨-, rfl⟩ := yielding_eq_ok_iff.1 h
    exact .bool true
  · obtain ⟨-, rfl⟩ := yielding_eq_ok_iff.1 h
    exact .bool false
  · obtain ⟨s, -, rfl⟩ := Scan.as_eq_ok_iff.1 h
    exact .string _
  · obtain ⟨n, -, rfl⟩ := Scan.as_eq_ok_iff.1 h
    exact .number n
  · rename_i t ht
    split at h
    · cases h
    · rename_i d hd
      obtain ⟨vs, hvs, rfl⟩ := Scan.as_eq_ok_iff.1 h
      exact .array ht hd hvs
  · rename_i t ht
    split at h
    · cases h
    · rename_i d hd
      obtain ⟨o, ho, rfl⟩ := Scan.as_eq_ok_iff.1 h
      exact .object ht hd ho
  · split at h
    · obtain ⟨n, -, rfl⟩ := Scan.as_eq_ok_iff.1 h
      exact .number n
    · cases h

/-- A value that is read opens no more brackets than the limit allows, and the keys of its objects are distinct. -/
theorem yields_value : Yields readValue fun d v => v.Keyed ∧ v.depth ≤ d := by
  intro lim cs v rest hread
  -- The entries of a list or an object are read within fewer brackets.
  induction hdepth : lim.depth using Nat.strongRecOn generalizing lim cs v rest with
  | ind n ih =>
    cases readFree_of_readValue hread with
    | null _ => exact ⟨.null, Nat.zero_le n⟩
    | bool b => exact ⟨.bool b, Nat.zero_le n⟩
    | number k => exact ⟨.number k, Nat.zero_le n⟩
    | string s => exact ⟨.string s, Nat.zero_le n⟩
    | @array _ d vs _ hd hvs =>
      obtain rfl : n = d + 1 := hdepth.symm.trans hd
      have hall := forall_mem_of_readElements (P := fun v => v.Keyed ∧ v.depth ≤ d)
        (fun cs v rest hv => ih d (Nat.lt_succ_self d) ⟨lim.entries, d⟩ cs v rest hv rfl) hvs
      exact ⟨.array fun v hv => (hall v hv).1, Nat.succ_le_succ (Value.itemsDepth_le fun v hv => (hall v hv).2)⟩
    | @object _ d o _ hd ho =>
      obtain rfl : n = d + 1 := hdepth.symm.trans hd
      have hkept := asRead_of_readFreeObject
        (fun cs v rest hv => ih d (Nat.lt_succ_self d) ⟨lim.entries, d⟩ cs v rest hv rfl) ho
      exact ⟨.object o.distinct hkept.keyed, Nat.succ_le_succ (Value.membersDepth_le hkept.depth)⟩

/-- The members of an object open one bracket less than it does. -/
theorem yields_members : Yields Codec.members.read fun d o => o.AsRead (d - 1) := by
  intro lim cs o rest hread
  simp only [Codec.members] at hread
  split at hread
  · obtain ⟨d, hd, hbody⟩ := of_enter_eq_ok hread
    rw [hd, Nat.add_sub_cancel]
    exact asRead_of_readFreeObject (fun cs v rest hv => yields_value ⟨_, d⟩ cs v rest hv) hbody
  · cases hread

/-- `null` is read where an `n` stands. -/
theorem exists_skipSpace_of_read_null {lim : Limits} {cs rest : List Char} (h : readValue lim cs = .ok (.null, rest)) :
    ∃ t, skipSpace cs = 'n' :: t := by
  cases readFree_of_readValue h with
  | null ht => exact ⟨_, ht⟩

/-! ## Codecs -/

section Codecs

variable {α R : Type}

/-- A value that may be `null` is never read as `null` itself. -/
theorem yields_optional_value :
    Yields (Codec.optional .value).read fun d logic => ∀ v, logic = some v → v ≠ .null ∧ v.Keyed ∧ v.depth ≤ d := by
  intro lim cs logic rest hread v hv
  subst hv
  simp only [Codec.optional, readOptional, Codec.value] at hread
  split at hread
  · obtain ⟨-, hv⟩ := yielding_eq_ok_iff.1 hread
    cases hv
  · rename_i hn
    obtain ⟨w, hw, hv⟩ := Scan.as_eq_ok_iff.1 hread
    cases hv
    refine ⟨?_, yields_value _ _ _ _ hw⟩
    rintro rfl
    obtain ⟨t, ht⟩ := exists_skipSpace_of_read_null hw
    rw [skipSpace, skipSpace, List.dropWhile_idempotent] at ht
    exact hn t ht

/-- The elements of a list are read one bracket further in. -/
theorem Yields.list {c : Codec α} {P : Nat → α → Prop} (h : Yields c.read P) :
    Yields (Codec.list c).read fun d as => ∀ a ∈ as, P (d - 1) a := by
  intro lim cs as rest hread
  simp only [Codec.list] at hread
  split at hread
  · obtain ⟨d, hd, hbody⟩ := of_enter_eq_ok hread
    rw [hd, Nat.add_sub_cancel]
    exact forall_mem_of_readElements (fun cs a rest ha => h ⟨lim.entries, d⟩ cs a rest ha) hbody
  · cases hread

/-- The reader of the member keeps a property of the record that is being read. -/
def Keeps (I : Nat → R → Prop) (m : Member R) : Prop :=
  ∀ lim x cs y rest, I lim.depth x → m.read x lim cs = .ok (y, rest) → I lim.depth y

/-- A member of a part keeps a property that does not break when the part is set to what its codec reads. -/
theorem Keeps.of {I : Nat → R → Prop} {P : Nat → α → Prop} {key : String} {c : Codec α} {get : R → α} {set : R → α → R}
    (hc : Yields c.read P) (h : ∀ d x a, I d x → P d a → I d (set x a)) : Keeps I (.of key c get set) := by
  intro lim x cs y rest hx hread
  obtain ⟨a, ha, rfl⟩ := Scan.as_eq_ok_iff.1 hread
  exact h _ _ _ hx (hc _ _ _ _ ha)

/-- A member of a part that the property is not about keeps it. -/
theorem Keeps.other {I : Nat → R → Prop} {key : String} {c : Codec α} {get : R → α} {set : R → α → R}
    (h : ∀ d x a, I d x → I d (set x a)) : Keeps I (.of key c get set) :=
  .of (P := fun _ _ => True) (fun _ _ _ _ _ => trivial) fun d x a hx _ => h d x a hx

/-- Members at their places keep what each of them keeps. -/
theorem of_readPlaces {rec : Record R} {I : Nat → R → Prop} {ms : List (Member R)} (h : ∀ m ∈ ms, Keeps I m) {lim : Limits}
    {place : Nat} {first : Bool} {x y : R} {cs rest : List Char} (hx : I lim.depth x)
    (hread : rec.readPlaces lim ms place first x cs = .ok (y, rest)) : I lim.depth y := by
  induction ms generalizing place first x cs with
  | nil =>
    obtain ⟨-, rfl⟩ := yielding_eq_ok_iff.1 hread
    exact hx
  | cons m ms ih =>
    have hrest : ∀ n ∈ ms, Keeps I n := fun n hn => h n (List.mem_cons_of_mem m hn)
    unfold Record.readPlaces at hread
    split at hread
    · cases hread
    · split at hread
      · cases hread
      · exact ih hrest hx hread
    · split at hread
      · cases hread
      · rename_i hm
        exact ih hrest (h m List.mem_cons_self _ _ _ _ _ hx hm) hread

/-- Members by their keys keep what each of them keeps. -/
theorem of_readObject {rec : Record R} {I : Nat → R → Prop} (h : ∀ m ∈ rec.members, Keeps I m) {lim : Limits} {y : R}
    {cs rest : List Char} (hstart : I lim.depth rec.start) (hread : rec.readObject lim cs = .ok (y, rest)) : I lim.depth y := by
  have hmember : ∀ (a : R × List String) (key : String) (cs : List Char) (b : R × List String) (rest : List Char),
      I lim.depth a.1 → rec.readMember lim a key cs = .ok (b, rest) → I lim.depth b.1 := by
    intro a key cs b rest ha hread
    unfold Record.readMember at hread
    split at hread
    · split at hread
      · cases hread
      · obtain ⟨-, rfl⟩ := yielding_eq_ok_iff.1 hread
        exact ha
    · rename_i m hm
      split at hread
      · cases hread
      · split at hread
        · cases hread
        · obtain ⟨x, hx, rfl⟩ := Scan.as_eq_ok_iff.1 hread
          exact h m (List.mem_of_find?_eq_some hm) _ _ _ _ _ ha hx
  unfold Record.readObject at hread
  split at hread
  · cases hread
  · rename_i hmembers
    have hkept := of_readMembers (I := fun a : R × List String => I lim.depth a.1) hmember hstart hmembers
    split at hread
    · cases hread
    · obtain ⟨-, rfl⟩ := yielding_eq_ok_iff.1 hread
      exact hkept

/-- A record is read one bracket further in; it has what absent members leave and what each member keeps. -/
theorem Record.yields {rec : Record R} {I : Nat → R → Prop} (hstart : ∀ d, I d rec.start) (h : ∀ m ∈ rec.members, Keeps I m) :
    Yields rec.codec.read fun d x => I (d - 1) x := by
  intro lim cs x rest hread
  simp only [Record.codec] at hread
  split at hread
  · obtain ⟨d, hd, hbody⟩ := of_enter_eq_ok hread
    rw [hd, Nat.add_sub_cancel]
    have hinner : I (Limits.mk lim.entries d).depth rec.start := hstart d
    exact of_readPlaces h hinner hbody
  · obtain ⟨d, hd, hbody⟩ := of_enter_eq_ok hread
    rw [hd, Nat.add_sub_cancel]
    have hinner : I (Limits.mk lim.entries d).depth rec.start := hstart d
    exact of_readObject h hinner hbody
  · cases hread

/-- What is read from a text. -/
theorem Yields.ofText {c : Codec α} {P : Nat → α → Prop} (h : Yields c.read P) {text : String} {a : α}
    (hread : c.ofText text = .ok a) : P 127 a := by
  simp only [Codec.ofText, readText] at hread
  split at hread
  · cases hread
  · rename_i ha
    split at hread
    · cases hread
      exact h _ _ _ _ ha
    · cases hread

end Codecs

end Webform.Json
