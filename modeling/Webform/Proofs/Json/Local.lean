import Mathlib.Data.List.Forall2
import Webform.Proofs.Json.Grammar

/-!
# Readers that look at one value

What a reader makes of a value, or that it refuses it, depends on the value and on how many brackets may still be opened: not on the
blanks before it, not on what follows it, and not on the number of entries as long as that is large enough (`Local`). The
readers of single values, of lists and of free values are of this kind. `Gives` is what such a reader makes of the value alone.
-/

namespace Webform.Json

/-! ## What is made of a value -/

theorem Scan.as_eq_ok_iff_of {α β : Type} {x : Scan α} {P : α → Prop} {tail : List Char}
    (h : ∀ a rest, x = .ok (a, rest) ↔ P a ∧ rest = tail) (f : α → β) (b : β) (rest : List Char) :
    x.as f = .ok (b, rest) ↔ (∃ a, P a ∧ f a = b) ∧ rest = tail := by
  simp only [as_eq_ok_iff, h]
  constructor
  · rintro ⟨a, ⟨ha, rfl⟩, hb⟩
    exact ⟨⟨a, ha, hb⟩, rfl⟩
  · rintro ⟨⟨a, ha, hb⟩, rfl⟩
    exact ⟨a, ⟨ha, rfl⟩, hb⟩

/-- What is read in one way at most is refused or read. -/
theorem Scan.error_or_ok {α : Type} {x : Scan α} {P : α → Prop} {tail : List Char}
    (h : ∀ a rest, x = .ok (a, rest) ↔ P a ∧ rest = tail) :
    (∃ e, x = .error e ∧ ∀ a, ¬P a) ∨ ∃ a, x = .ok (a, tail) ∧ ∀ b, P b ↔ b = a := by
  cases x with
  | error e => exact .inl ⟨e, rfl, fun a ha => error_ne_ok ((h a tail).2 ⟨ha, rfl⟩)⟩
  | ok x =>
    obtain ⟨a, r⟩ := x
    obtain ⟨ha, rfl⟩ := (h a r).1 rfl
    refine .inr ⟨a, rfl, fun b => ⟨fun hb => ?_, fun hb => hb ▸ ha⟩⟩
    cases (h b r).2 ⟨hb, rfl⟩
    rfl

section Gives

variable {α β : Type} {r : Reader α} {d : Nat} {v : List Char} {P : α → Prop}

/-- The reader makes this of the value, with so many brackets to open. -/
def Gives (r : Reader α) (d : Nat) (v : List Char) (a : α) : Prop := r ⟨v.length + 1, d⟩ v = .ok (a, [])

/-- Wherever the value stands the reader reads it to its end, and makes of it what has the property. -/
def Takes (r : Reader α) (d : Nat) (v : List Char) (P : α → Prop) : Prop :=
  ∀ ⦃ws tail : List Char⦄ ⦃n : Nat⦄, IsBlank ws → Ends tail → (ws ++ (v ++ tail)).length < n →
    ∀ a rest, r ⟨n, d⟩ (ws ++ (v ++ tail)) = .ok (a, rest) ↔ P a ∧ rest = tail

/-- The reader makes the same of a value wherever it stands. -/
def Local (r : Reader α) : Prop := ∀ ⦃d : Nat⦄ ⦃v : List Char⦄, IsValue v → Takes r d v (Gives r d v)

theorem Takes.gives_iff (h : Takes r d v P) (a : α) : Gives r d v a ↔ P a := by
  have halone := h .nil .nil (n := v.length + 1) (by simp) a []
  simpa [Gives] using halone

theorem Local.of_takes (h : ∀ d v, IsValue v → ∃ P, Takes r d v P) : Local r := by
  intro d v hv ws tail n hws htail hn a rest
  obtain ⟨P, hP⟩ := h d v hv
  rw [hP.gives_iff, hP hws htail hn]

/-- Wherever the value stands the reader refuses it. -/
theorem takes_false (h : ∀ n ws tail, IsBlank ws → ∀ x, r ⟨n, d⟩ (ws ++ (v ++ tail)) ≠ .ok x) : Takes r d v fun _ => False :=
  fun ws tail n hws _ _ a rest => iff_of_false (h n ws tail hws (a, rest)) (by simp)

/-- A reader that only does something with what another has read. -/
theorem Takes.trans {f : Reader β} {Q : α → β → Prop} (h : Takes r d v P)
    (hf : ∀ lim cs b rest, f lim cs = .ok (b, rest) ↔ ∃ a, r lim cs = .ok (a, rest) ∧ Q a b) :
    Takes f d v fun b => ∃ a, P a ∧ Q a b := by
  intro ws tail n hws htail hn b rest
  simp only [hf, h hws htail hn]
  constructor
  · rintro ⟨a, ⟨ha, rfl⟩, hab⟩
    exact ⟨⟨a, ha, hab⟩, rfl⟩
  · rintro ⟨⟨a, ha, hab⟩, rfl⟩
    exact ⟨a, ⟨ha, rfl⟩, hab⟩

theorem Local.trans {f : Reader β} {Q : α → β → Prop} (h : Local r)
    (hf : ∀ lim cs b rest, f lim cs = .ok (b, rest) ↔ ∃ a, r lim cs = .ok (a, rest) ∧ Q a b) : Local f :=
  .of_takes fun _ _ hv => ⟨_, (h hv).trans hf⟩

theorem Takes.as (h : Takes r d v P) (f : α → β) : Takes (fun lim cs => (r lim cs).as f) d v fun b => ∃ a, P a ∧ f a = b :=
  fun _ _ _ hws htail hn => Scan.as_eq_ok_iff_of (h hws htail hn) f

theorem Local.as (h : Local r) (f : α → β) : Local fun lim cs => (r lim cs).as f := h.trans fun _ _ _ _ => Scan.as_eq_ok_iff

theorem Gives.eq {a b : α} (h : Gives r d v a) (h' : Gives r d v b) : a = b := by
  cases h.symm.trans h'
  rfl

end Gives

/-! ## Values by their first character -/

section First

variable {v tail t : List Char}

theorem expectWord_eq_ok_iff {w cs rest : List Char} : expectWord w cs = .ok rest ↔ cs = w ++ rest := by
  induction w generalizing cs with
  | nil => simp [expectWord]
  | cons c w ih =>
    cases cs with
    | nil => simp [expectWord]
    | cons d cs =>
      rw [expectWord, List.cons_append, List.cons.injEq]
      split
      · rename_i h
        rw [ih, and_iff_right h]
      · rename_i h
        simp [h]

theorem yielding_expectWord {α : Type} {a b : α} {w rest : List Char} :
    yielding a (expectWord w (w ++ tail)) = .ok (b, rest) ↔ a = b ∧ rest = tail := by
  rw [yielding_eq_ok_iff, expectWord_eq_ok_iff, List.append_cancel_left_eq, and_comm, @eq_comm _ tail]

theorem isDigit_false_of_bracket (b : Bracket) : isDigit b.opening = false := by cases b <;> rfl

theorem IsValue.of_quote (h : IsValue v) (ht : v ++ tail = '"' :: t) :
    ∃ u, IsStringBody u ∧ v = '"' :: (u ++ ['"']) ∧ t = u ++ '"' :: tail := by
  cases h with
  | @string u hu => exact ⟨u, hu, rfl, by simpa using ht.symm⟩
  | number hu =>
    obtain ⟨c, t, rfl, hc⟩ := hu.exists_head
    obtain ⟨rfl, -⟩ := List.cons.inj ht
    exact absurd hc (by decide)
  | entries b => cases b <;> cases ht
  | _ => cases ht

theorem IsValue.of_minus (h : IsValue v) (ht : v ++ tail = '-' :: t) : ∃ u, IsUnsigned u ∧ v = '-' :: u ∧ t = u ++ tail := by
  cases h with
  | @negative u hu => exact ⟨u, hu, rfl, by simpa using ht.symm⟩
  | number hu =>
    obtain ⟨c, t, rfl, hc⟩ := hu.exists_head
    obtain ⟨rfl, -⟩ := List.cons.inj ht
    exact absurd hc (by decide)
  | entries b => cases b <;> cases ht
  | _ => cases ht

theorem IsValue.of_digit {c : Char} (h : IsValue v) (ht : v ++ tail = c :: t) (hc : isDigit c = true) : IsUnsigned v := by
  cases h with
  | number hu => exact hu
  | entries b =>
    obtain ⟨rfl, -⟩ := List.cons.inj ht
    rw [isDigit_false_of_bracket] at hc
    cases hc
  | _ =>
    obtain ⟨rfl, -⟩ := List.cons.inj ht
    exact absurd hc (by decide)

/-- What follows the opening bracket of a list or an object is shorter than a text that it stands in. -/
theorem Bracket.exists_around_eq (b : Bracket) {gap ws tail : List Char} {es : List EntryText} {n : Nat}
    (hn : (ws ++ (b.around gap es ++ tail)).length < n) : ∃ t, b.around gap es ++ tail = b.opening :: t ∧ t.length < n := by
  refine ⟨_, rfl, ?_⟩
  simp only [Bracket.around, List.append_eq, List.cons_append, List.length_append, List.length_cons] at hn ⊢
  omega

/-- The value is a list or an object, as the bracket tells. -/
def Bracket.Encloses (b : Bracket) (v : List Char) : Prop :=
  ∃ gap es, IsBlank gap ∧ (∀ e ∈ es, e.Fits b) ∧ (∀ e ∈ es, IsValue e.value) ∧ v = b.around gap es

theorem IsValue.of_opening {b : Bracket} (h : IsValue v) (ht : v ++ tail = b.opening :: t) : b.Encloses v := by
  cases h with
  | @entries b' gap es hgap hfits hvalues =>
    obtain ⟨hopen, -⟩ := List.cons.inj ht
    have hb : b' = b := by cases b <;> cases b' <;> first | rfl | cases hopen
    subst hb
    exact ⟨gap, es, hgap, hfits, hvalues, rfl⟩
  | number hu =>
    obtain ⟨c, t, rfl, hc⟩ := hu.exists_head
    obtain ⟨rfl, -⟩ := List.cons.inj ht
    rw [isDigit_false_of_bracket] at hc
    cases hc
  | _ =>
    obtain ⟨hopen, -⟩ := List.cons.inj ht
    cases b <;> cases hopen

/-- A word is told by its first letter. -/
theorem IsValue.of_letter {c : Char} {w : List Char} (h : IsValue v) (ht : v ++ tail = c :: t)
    (hw : (c, w) ∈ [('n', ['u', 'l', 'l']), ('t', ['r', 'u', 'e']), ('f', ['a', 'l', 's', 'e'])]) : v = c :: w ∧ t = w ++ tail := by
  simp only [List.mem_cons, List.not_mem_nil, or_false, Prod.mk.injEq] at hw
  suffices hv : v = c :: w from ⟨hv, by rw [hv] at ht; exact (List.cons.inj ht).2.symm⟩
  cases h with
  | number hu =>
    obtain ⟨c, t, rfl, hc⟩ := hu.exists_head
    obtain ⟨rfl, -⟩ := List.cons.inj ht
    rcases hw with ⟨rfl, -⟩ | ⟨rfl, -⟩ | ⟨rfl, -⟩ <;> exact absurd hc (by decide)
  | entries b =>
    obtain ⟨rfl, -⟩ := List.cons.inj ht
    rcases hw with ⟨hc, -⟩ | ⟨hc, -⟩ | ⟨hc, -⟩ <;> cases b <;> cases hc
  | _ =>
    obtain ⟨rfl, -⟩ := List.cons.inj ht
    rcases hw with ⟨hc, rfl⟩ | ⟨hc, rfl⟩ | ⟨hc, rfl⟩ <;> first | rfl | cases hc

end First

/-! ## Single values -/

section Single

theorem takes_readString (expected : String) {v : List Char} (hv : IsValue v) (d : Nat) :
    Takes (fun _ => readString expected) d v fun a => ∃ u s, v = '"' :: (u ++ ['"']) ∧ Spells u s ∧ String.ofList s = a := by
  intro ws tail n hws _ _ a rest
  dsimp only
  rw [readString, hv.skipSpace_append hws]
  split
  · rename_i r hr
    obtain ⟨u, hu, rfl, rfl⟩ := hv.of_quote hr
    rw [Scan.as_eq_ok_iff_of (scanString_eq_ok_iff hu tail)]
    simp
  · rename_i hne
    refine iff_of_false error_ne_ok ?_
    rintro ⟨⟨u, s, rfl, -⟩, -⟩
    exact hne _ rfl

theorem local_readString (expected : String) : Local fun _ => readString expected :=
  .of_takes fun d _ hv => ⟨_, takes_readString expected hv d⟩

theorem local_readNumber (expected : String) : Local fun _ => readNumber expected := by
  refine .of_takes fun d v hv => ?_
  have hskip {ws : List Char} (hws : IsBlank ws) (tail : List Char) := hv.skipSpace_append hws tail
  by_cases hminus : ∃ u, IsUnsigned u ∧ v = '-' :: u
  · obtain ⟨u, hu, rfl⟩ := hminus
    obtain ⟨P, hP⟩ := scansNumber_scanNumber true hu
    refine ⟨P, fun ws tail n hws htail _ a rest => ?_⟩
    dsimp only
    rw [readNumber, hskip hws]
    exact hP tail htail a rest
  · by_cases hdigit : IsUnsigned v
    · obtain ⟨P, hP⟩ := scansNumber_scanNumber false hdigit
      refine ⟨P, fun ws tail n hws htail _ a rest => ?_⟩
      obtain ⟨c, t, rfl, hc⟩ := hdigit.exists_head
      have hne := ne_of_isDigit hc (d := '-') (by decide)
      have hread := hP tail htail a rest
      rw [List.cons_append] at hread
      dsimp only
      rw [readNumber, hskip hws, List.cons_append]
      simp [hc, hread]
    · refine ⟨_, takes_false fun n ws tail hws x => ?_⟩
      rw [readNumber, hskip hws]
      split
      · rename_i hr
        obtain ⟨u, hu, rfl, -⟩ := hv.of_minus hr
        exact absurd ⟨u, hu, rfl⟩ hminus
      · rename_i hr
        split
        · rename_i hc
          exact absurd (hv.of_digit hr hc) hdigit
        · exact error_ne_ok
      · exact error_ne_ok

theorem local_readInteger (expected : String) (low high : Int) : Local fun _ => readInteger expected low high := by
  refine (local_readNumber expected).trans (Q := fun n i => n = .integer i ∧ low ≤ i ∧ i ≤ high) fun _ cs i rest => ?_
  rw [readInteger]
  cases hread : readNumber expected cs with
  | error e => simp
  | ok x =>
    obtain ⟨j | n, r⟩ := x
    · by_cases hbounds : low ≤ j ∧ j ≤ high
      · simp only [if_pos hbounds, Except.ok.injEq, Prod.mk.injEq, and_assoc, exists_eq_left', Number.integer.injEq]
        constructor
        · rintro ⟨rfl, rfl⟩
          exact ⟨rfl, rfl, hbounds⟩
        · rintro ⟨rfl, rfl, -⟩
          exact ⟨rfl, rfl⟩
      · simp only [if_neg hbounds, Except.ok.injEq, Prod.mk.injEq, and_assoc, exists_eq_left', Number.integer.injEq]
        refine iff_of_false error_ne_ok ?_
        rintro ⟨-, rfl, hi⟩
        exact hbounds hi
    · simp

/-- `null`, or what the reader makes of the value. -/
theorem takes_readOptional {α : Type} {r : Reader α} (hr : Local r) {v : List Char} (hv : IsValue v) (d : Nat) :
    Takes (readOptional r) d v fun o => if v = ['n', 'u', 'l', 'l'] then o = none else ∃ a, Gives r d v a ∧ some a = o := by
  intro ws tail n hws htail hn o rest
  rw [readOptional, hv.skipSpace_append hws]
  split
  · rename_i t ht
    obtain ⟨rfl, rfl⟩ := hv.of_letter (w := ['u', 'l', 'l']) ht (by simp)
    rw [yielding_expectWord]
    simp only [if_true, @eq_comm _ none]
  · rename_i hne
    have hnull : v ≠ ['n', 'u', 'l', 'l'] := by
      rintro rfl
      exact hne _ rfl
    have hlength : ([] ++ (v ++ tail)).length < n := by
      simp only [List.length_append, List.length_nil] at hn ⊢
      omega
    simp only [if_neg hnull]
    exact ((hr hv).as some) .nil htail hlength o rest

theorem local_readOptional {α : Type} {r : Reader α} (hr : Local r) : Local (readOptional r) :=
  .of_takes fun d _ hv => ⟨_, takes_readOptional hr hv d⟩

namespace Codec

theorem local_text : Local text.read := local_readString _

theorem local_optional {α : Type} {c : Codec α} (h : Local c.read) : Local (optional c).read := local_readOptional h

theorem local_nullableText : Local nullableText.read := (local_readOptional local_text).as _

theorem local_int32 : Local int32.read := (local_readInteger _ _ _).as _

theorem local_count : Local count.read := (local_readInteger _ _ _).as _

theorem local_bool : Local bool.read := by
  refine .of_takes fun d v hv => ?_
  refine ⟨fun a => (v = ['t', 'r', 'u', 'e'] ∧ true = a) ∨ (v = ['f', 'a', 'l', 's', 'e'] ∧ false = a),
    fun ws tail n hws _ _ a rest => ?_⟩
  simp only [bool]
  rw [hv.skipSpace_append hws]
  split
  · rename_i t ht
    obtain ⟨rfl, rfl⟩ := hv.of_letter (w := ['r', 'u', 'e']) ht (by simp)
    rw [yielding_expectWord]
    simp
  · rename_i t ht
    obtain ⟨rfl, rfl⟩ := hv.of_letter (w := ['a', 'l', 's', 'e']) ht (by simp)
    rw [yielding_expectWord]
    simp
  · rename_i htrue hfalse
    refine iff_of_false error_ne_ok ?_
    rintro ⟨⟨rfl, -⟩ | ⟨rfl, -⟩, -⟩
    · exact htrue _ rfl
    · exact hfalse _ rfl

theorem local_identifier : Local identifier.read := by
  refine (local_readString "a formatted UUID string").trans (Q := fun s i => Identifier.read s = .ok i) fun _ cs i rest => ?_
  simp only [identifier]
  cases hread : readString "a formatted UUID string" cs with
  | error e => simp
  | ok x =>
    obtain ⟨s, r⟩ := x
    cases hi : Identifier.read s with
    | error e => simp [and_assoc, hi]
    | ok j => simp [and_assoc, hi, and_comm]

end Codec

end Single

/-! ## Lists -/

section Lists

variable {α : Type} {r : Reader α} {d : Nat}

/-- There is no further element before the closing bracket. -/
theorem readElements_iff_of_end {element : List Char → Scan α} {n : Nat} {first : Bool} {cs tail : List Char}
    (h : skipSpace cs = ']' :: tail) (as : List α) (rest : List Char) :
    readElements element (n + 1) first cs = .ok (as, rest) ↔ as = [] ∧ rest = tail := by
  have hclose : closeList (']' :: tail) = .ok tail := rfl
  rw [readElements, nextElement, h]
  simp only [hclose, Except.ok.injEq, Prod.mk.injEq, @eq_comm _ _ as, @eq_comm _ _ rest]

/-- The elements of a list, once the first has been found: each is what the reader makes of its value. -/
theorem readElements_iff_of_next {e : EntryText} {es : List EntryText} {N n : Nat} {first : Bool} {cs t tail : List Char}
    (he : Takes r d e.value (Gives r d e.value)) (hafter : IsBlank e.after)
    (hN : (e.value ++ EntryText.rest .list e.after es tail).length < N)
    (hnext : nextElement first cs =
      .ok (some (e.value ++ EntryText.rest .list e.after es tail), t))
    (hrest : ∀ as rest, readElements (r ⟨N, d⟩) n false (EntryText.rest .list e.after es tail) = .ok (as, rest) ↔
      List.Forall₂ (fun e a => Gives r d e.value a) es as ∧ rest = tail) (as : List α) (rest : List Char) :
    readElements (r ⟨N, d⟩) (n + 1) first cs = .ok (as, rest) ↔
      List.Forall₂ (fun e a => Gives r d e.value a) (e :: es) as ∧ rest = tail := by
  have hread := he .nil (EntryText.ends_rest hafter es tail) (by simpa using hN)
  rw [List.nil_append] at hread
  rw [readElements, hnext, List.forall₂_cons_left_iff]
  obtain ⟨err, ha, hnone⟩ | ⟨a, ha, hone⟩ := Scan.error_or_ok hread
  · simp [ha, hnone]
  · obtain ⟨err, has, hnone⟩ | ⟨as', has, hones⟩ := Scan.error_or_ok hrest
    · simp [ha, has, hnone]
    · simp [ha, has, hone, hones, @eq_comm _ as, @eq_comm _ rest]

theorem nextElement_value {e : EntryText} (he : e.Fits .list) (hv : IsValue e.value) {gap : List Char} (hgap : IsBlank gap)
    (t : List Char) :
    nextElement true (gap ++ (e.key ++ (e.before ++ (e.value ++ t)))) = .ok (some (e.value ++ t), e.value ++ t) := by
  have hkey : e.key = [] := he.key
  obtain ⟨c, u, hcu, -, hclose, -⟩ := hv.exists_head
  rw [hkey, List.nil_append, ← List.append_assoc, nextElement, hv.skipSpace_append (hgap.append he.before), hcu]
  simp

theorem nextElement_rest {e : EntryText} {es : List EntryText} (he : e.Fits .list) (hv : IsValue e.value) {after : List Char}
    (hafter : IsBlank after) (tail : List Char) : nextElement false (EntryText.rest .list after (e :: es) tail) =
      .ok (some (e.value ++ EntryText.rest .list e.after es tail), e.value ++ EntryText.rest .list e.after es tail) := by
  have hkey : e.key = [] := he.key
  obtain ⟨c, u, hcu, -, hclose, -⟩ := hv.exists_head
  rw [nextElement, EntryText.skipSpace_rest_cons hafter, hkey, List.nil_append]
  have hskip := hv.skipSpace_append he.before (EntryText.rest .list e.after es tail)
  rw [hcu, List.cons_append] at hskip
  simp [hcu, hskip, hclose]

theorem readElements_rest {es : List EntryText} (hfits : ∀ e ∈ es, e.Fits .list) (hvalues : ∀ e ∈ es, IsValue e.value)
    (htakes : ∀ e ∈ es, Takes r d e.value (Gives r d e.value)) {after tail : List Char} (hafter : IsBlank after) {N n : Nat}
    (hn : (EntryText.rest .list after es tail).length < n) (hN : n ≤ N) (as : List α) (rest : List Char) :
    readElements (r ⟨N, d⟩) n false (EntryText.rest .list after es tail) = .ok (as, rest) ↔
      List.Forall₂ (fun e a => Gives r d e.value a) es as ∧ rest = tail := by
  induction es generalizing after n as rest with
  | nil =>
    obtain ⟨n, rfl⟩ : ∃ m, n = m + 1 := ⟨n - 1, by omega⟩
    rw [readElements_iff_of_end (EntryText.skipSpace_rest_nil hafter tail), List.forall₂_nil_left_iff]
  | cons e es ih =>
    obtain ⟨n, rfl⟩ : ∃ m, n = m + 1 := ⟨n - 1, by omega⟩
    have he := hfits e (by simp)
    have hlength : (e.value ++ EntryText.rest .list e.after es tail).length < n + 1 ∧
        (EntryText.rest .list e.after es tail).length < n := by
      simp only [EntryText.rest, EntryText.more, EntryText.toList, List.flatMap_cons, List.length_append, List.length_cons] at hn ⊢
      omega
    exact readElements_iff_of_next (htakes e (by simp)) he.after (Nat.lt_of_lt_of_le hlength.1 hN)
      (nextElement_rest he (hvalues e (by simp)) hafter tail)
      (fun as rest => ih (fun f hf => hfits f (by simp [hf])) (fun f hf => hvalues f (by simp [hf]))
        (fun f hf => htakes f (by simp [hf])) he.after hlength.2 (by omega) as rest) as rest

/-- The elements of a list after its opening bracket. -/
theorem readElements_around {gap : List Char} {es : List EntryText} (hgap : IsBlank gap) (hfits : ∀ e ∈ es, e.Fits .list)
    (hvalues : ∀ e ∈ es, IsValue e.value) (htakes : ∀ e ∈ es, Takes r d e.value (Gives r d e.value)) {t tail : List Char}
    (ht : Bracket.list.around gap es ++ tail = '[' :: t) {N : Nat} (hN : t.length < N) (as : List α) (rest : List Char) :
    readElements (r ⟨N, d⟩) N true t = .ok (as, rest) ↔ List.Forall₂ (fun e a => Gives r d e.value a) es as ∧ rest = tail := by
  obtain ⟨n, rfl⟩ : ∃ m, N = m + 1 := ⟨N - 1, by omega⟩
  cases es with
  | nil =>
    rw [EntryText.around_nil_append] at ht
    obtain ⟨-, rfl⟩ := List.cons.inj ht
    have hend : skipSpace (gap ++ Bracket.list.closing :: tail) = ']' :: tail :=
      Json.skipSpace_append hgap Bracket.list.isSpace_closing
    rw [readElements_iff_of_end hend, List.forall₂_nil_left_iff]
  | cons e es =>
    rw [EntryText.around_append] at ht
    obtain ⟨-, rfl⟩ := List.cons.inj ht
    have he := hfits e (by simp)
    have hlength : (e.value ++ EntryText.rest .list e.after es tail).length < n + 1 ∧
        (EntryText.rest .list e.after es tail).length < n := by
      obtain ⟨c, u, hcu, -⟩ := (hvalues e (by simp)).exists_head
      simp only [hcu, List.length_append, List.length_cons] at hN ⊢
      omega
    exact readElements_iff_of_next (htakes e (by simp)) he.after hlength.1
      (nextElement_value he (hvalues e (by simp)) hgap _)
      (readElements_rest (fun f hf => hfits f (by simp [hf])) (fun f hf => hvalues f (by simp [hf]))
        (fun f hf => htakes f (by simp [hf])) he.after hlength.2 (Nat.le_succ n)) as rest

theorem Codec.local_list {c : Codec α} (h : Local c.read) : Local (list c).read := by
  refine .of_takes fun d v hv => ?_
  have hskip {ws : List Char} (hws : IsBlank ws) (tail : List Char) := hv.skipSpace_append hws tail
  by_cases hlist : Bracket.list.Encloses v
  · obtain ⟨gap, es, hgap, hfits, hvalues, rfl⟩ := hlist
    cases d with
    | zero =>
      refine ⟨_, takes_false fun n ws tail hws x => ?_⟩
      simp only [list, hskip hws]
      exact error_ne_ok
    | succ d =>
      refine ⟨fun as => List.Forall₂ (fun e a => Gives c.read d e.value a) es as, fun ws tail n hws _ hn as rest => ?_⟩
      obtain ⟨t, htext, hlength⟩ := Bracket.list.exists_around_eq hn
      simp only [list]
      rw [hskip hws, htext]
      exact readElements_around hgap hfits hvalues (fun e he => h (hvalues e he)) htext hlength as rest
  · refine ⟨_, takes_false fun n ws tail hws x => ?_⟩
    simp only [list, hskip hws]
    split
    · rename_i hopen
      exact absurd (hv.of_opening (b := .list) hopen) hlist
    · exact error_ne_ok

end Lists

/-! ## Objects -/

section Objects

/-- What a key spells does not depend on where its blanks end. -/
theorem EntryText.Spelled.eq {e : EntryText} {u u' : List Char} (h : e.Spelled u) (h' : e.Spelled u') (hu : IsStringBody u)
    (hu' : IsStringBody u') : u = u' := by
  obtain ⟨lead, gap, hlead, -, hkey⟩ := h
  obtain ⟨lead', gap', hlead', -, hkey'⟩ := h'
  have hskip : skipSpace (lead ++ '"' :: (u ++ '"' :: (gap ++ [':']))) = '"' :: (u ++ '"' :: (gap ++ [':'])) :=
    skipSpace_append hlead rfl
  rw [← hkey, hkey', skipSpace_append hlead' rfl, List.cons.injEq] at hskip
  have hend := skipString_append hu (gap ++ [':'])
  rw [← hskip.2, skipString_append hu', Except.ok.injEq] at hend
  rw [hend] at hskip
  exact (List.append_cancel_right hskip.2).symm

/-- An entry has one key. -/
theorem EntryText.Names.eq {e : EntryText} {key key' : String} (h : e.Names key) (h' : e.Names key') : key = key' := by
  obtain ⟨u, hu, hkey⟩ := h
  obtain ⟨u', hu', hkey'⟩ := h'
  obtain rfl := hu.eq hu' hkey.isStringBody hkey'.isStringBody
  exact String.toList_injective (hkey.eq hkey')

variable {σ : Type} {member : Limits → σ → String → List Char → Scan σ} {d : Nat}

/-- The reader of a member makes the same of an entry wherever it stands, for every key that it may have. -/
def TakesMember (member : Limits → σ → String → List Char → Scan σ) (d : Nat) (e : EntryText) (M : String → σ → σ → Prop) : Prop :=
  ∀ ⦃gap tail : List Char⦄ ⦃n : Nat⦄, IsBlank gap → Ends tail → (e.before ++ (e.value ++ tail)).length < n → ∀ key a b rest,
    member ⟨n, d⟩ a key (gap ++ ':' :: (e.before ++ (e.value ++ tail))) = .ok (b, rest) ↔ M key a b ∧ rest = tail

/-- The entries, one after another, take what is made of an object from the first state to the last. -/
inductive Leads (M : EntryText → String → σ → σ → Prop) : List EntryText → σ → σ → Prop where
  | nil (a : σ) : Leads M [] a a
  | cons {e : EntryText} {es : List EntryText} {key : String} {a b c : σ} :
      e.Names key → M e key a b → Leads M es b c → Leads M (e :: es) a c

variable {M : EntryText → String → σ → σ → Prop}

theorem leads_cons_iff {e : EntryText} {es : List EntryText} {u : List Char} {a c : σ} (hspelled : e.Spelled u)
    (hu : IsStringBody u) : Leads M (e :: es) a c ↔ ∃ s, Spells u s ∧ ∃ b, M e (String.ofList s) a b ∧ Leads M es b c := by
  constructor
  · rintro (_ | @⟨_, _, key, _, b, _, ⟨u', hu', hkey⟩, hb, hes⟩)
    obtain rfl := hspelled.eq hu' hu hkey.isStringBody
    exact ⟨key.toList, hkey, b, by rwa [String.ofList_toList], hes⟩
  · rintro ⟨s, hs, b, hb, hes⟩
    exact .cons ⟨u, hspelled, by rwa [String.toList_ofList]⟩ hb hes

/-- There is no further key before the closing bracket. -/
theorem readMembers_iff_of_end {f : σ → String → List Char → Scan σ} {n : Nat} {first : Bool} {a b : σ} {cs tail rest : List Char}
    (h : skipSpace cs = '\x7d' :: tail) :
    readMembers f (n + 1) first a cs = .ok (b, rest) ↔ Leads M [] a b ∧ rest = '\x7d' :: tail := by
  rw [readMembers, nextKey, h]
  simp only [Except.ok.injEq, Prod.mk.injEq, @eq_comm _ _ rest]
  refine and_congr_left' ⟨?_, ?_⟩
  · rintro rfl
    exact .nil a
  · rintro ⟨⟩
    rfl

/-- The members of an object, once the key of the first has been found. -/
theorem readMembers_iff_of_next {e : EntryText} {es : List EntryText} {N n : Nat} {first : Bool} {a b : σ}
    {cs t rest tail u lead gap : List Char} (he : TakesMember member d e (M e)) (hafter : IsBlank e.after)
    (hlead : IsBlank lead) (hgap : IsBlank gap) (hkey : e.key = lead ++ '"' :: (u ++ '"' :: (gap ++ [':']))) (hu : IsStringBody u)
    (hN : (e.before ++ (e.value ++ EntryText.rest .object e.after es tail)).length < N)
    (hnext : nextKey first cs =
      .ok (some (u ++ '"' :: (gap ++ ':' :: (e.before ++ (e.value ++ EntryText.rest .object e.after es tail)))), t))
    (hrest : ∀ a b rest, readMembers (member ⟨N, d⟩) n false a (EntryText.rest .object e.after es tail) = .ok (b, rest) ↔
      Leads M es a b ∧ rest = '\x7d' :: tail) :
    readMembers (member ⟨N, d⟩) (n + 1) first a cs = .ok (b, rest) ↔ Leads M (e :: es) a b ∧ rest = '\x7d' :: tail := by
  have hspelled : e.Spelled u := ⟨lead, gap, hlead, hgap, hkey⟩
  have hread := he hgap (EntryText.ends_rest hafter es tail) hN
  rw [readMembers, hnext, leads_cons_iff hspelled hu]
  obtain ⟨err, hs, hnone⟩ | ⟨s, hs, hone⟩ := Scan.error_or_ok
    (scanString_eq_ok_iff hu (gap ++ ':' :: (e.before ++ (e.value ++ EntryText.rest .object e.after es tail))))
  · simp [hs, hnone]
  · obtain ⟨err, hb, hnone⟩ | ⟨b', hb, hones⟩ := Scan.error_or_ok (hread (String.ofList s) a)
    · simp [hs, hone, hb, hnone]
    · simp [hs, hone, hb, hones, hrest]

theorem readMembers_rest {es : List EntryText} (hfits : ∀ e ∈ es, e.Fits .object) (htakes : ∀ e ∈ es, TakesMember member d e (M e))
    {after tail : List Char} (hafter : IsBlank after) {N n : Nat} (hn : (EntryText.rest .object after es tail).length < n)
    (hN : n ≤ N) (a b : σ) (rest : List Char) :
    readMembers (member ⟨N, d⟩) n false a (EntryText.rest .object after es tail) = .ok (b, rest) ↔
      Leads M es a b ∧ rest = '\x7d' :: tail := by
  induction es generalizing after n a b rest with
  | nil =>
    obtain ⟨n, rfl⟩ : ∃ m, n = m + 1 := ⟨n - 1, by omega⟩
    exact readMembers_iff_of_end (EntryText.skipSpace_rest_nil hafter tail)
  | cons e es ih =>
    obtain ⟨n, rfl⟩ : ∃ m, n = m + 1 := ⟨n - 1, by omega⟩
    have he := hfits e (by simp)
    have hlength : (e.before ++ (e.value ++ EntryText.rest .object e.after es tail)).length < n + 1 ∧
        (EntryText.rest .object e.after es tail).length < n := by
      simp only [EntryText.rest, EntryText.more, EntryText.toList, List.flatMap_cons, List.length_append, List.length_cons] at hn ⊢
      omega
    obtain ⟨u, ⟨lead, gap, hlead, hgap, hkey⟩, hu⟩ := he.key
    refine readMembers_iff_of_next (htakes e (by simp)) he.after hlead hgap hkey hu (Nat.lt_of_lt_of_le hlength.1 hN)
      (t := u ++ '"' :: (gap ++ ':' :: (e.before ++ (e.value ++ EntryText.rest .object e.after es tail)))) ?_
      fun a b rest => ih (fun f hf => hfits f (by simp [hf])) (fun f hf => htakes f (by simp [hf])) he.after hlength.2 (by omega)
        a b rest
    have hquote (r : List Char) : skipSpace (lead ++ '"' :: r) = '"' :: r := skipSpace_append hlead rfl
    rw [nextKey, EntryText.skipSpace_rest_cons hafter, hkey]
    simp [hquote]

/-- The members of an object after its opening bracket, up to the closing one. -/
theorem readMembers_around {gap : List Char} {es : List EntryText} (hgap : IsBlank gap) (hfits : ∀ e ∈ es, e.Fits .object)
    (htakes : ∀ e ∈ es, TakesMember member d e (M e)) {t tail : List Char}
    (ht : Bracket.object.around gap es ++ tail = '\x7b' :: t) {N : Nat} (hN : t.length < N) (a b : σ) (rest : List Char) :
    readMembers (member ⟨N, d⟩) N true a t = .ok (b, rest) ↔ Leads M es a b ∧ rest = '\x7d' :: tail := by
  obtain ⟨n, rfl⟩ : ∃ m, N = m + 1 := ⟨N - 1, by omega⟩
  cases es with
  | nil =>
    rw [EntryText.around_nil_append] at ht
    obtain ⟨-, rfl⟩ := List.cons.inj ht
    exact readMembers_iff_of_end (Json.skipSpace_append hgap Bracket.object.isSpace_closing)
  | cons e es =>
    rw [EntryText.around_append] at ht
    obtain ⟨-, rfl⟩ := List.cons.inj ht
    have he := hfits e (by simp)
    obtain ⟨u, ⟨lead, colon, hlead, hcolon, hkey⟩, hu⟩ := he.key
    have hlength : (e.before ++ (e.value ++ EntryText.rest .object e.after es tail)).length < n + 1 ∧
        (EntryText.rest .object e.after es tail).length < n := by
      simp only [hkey, List.length_append, List.length_cons] at hN ⊢
      omega
    refine readMembers_iff_of_next (htakes e (by simp)) he.after hlead hcolon hkey hu hlength.1
      (t := u ++ '"' :: (colon ++ ':' :: (e.before ++ (e.value ++ EntryText.rest .object e.after es tail)))) ?_
      (readMembers_rest (fun f hf => hfits f (by simp [hf])) (fun f hf => htakes f (by simp [hf])) he.after hlength.2
        (Nat.le_succ n))
    have hquote (r : List Char) : skipSpace (gap ++ (lead ++ '"' :: r)) = '"' :: r := by
      rw [← List.append_assoc]
      exact skipSpace_append (hgap.append hlead) rfl
    rw [nextKey, hkey]
    simp [hquote]

end Objects

/-! ## Free values -/

section Free

/-- What a member of an object of free values does. -/
def InsertsFree (d : Nat) (e : EntryText) (key : String) (o o' : Object) : Prop :=
  ∃ w, Gives readValue d e.value w ∧ o.insert key w = o'

theorem takesMember_readFreeMember {d : Nat} {e : EntryText} (hbefore : IsBlank e.before)
    (h : Takes readValue d e.value (Gives readValue d e.value)) :
    TakesMember (fun lim => readFreeMember (readValue lim)) d e (InsertsFree d e) := by
  intro gap tail n hgap htail hn key o o' rest
  have hread := h hbefore htail hn
  simp only [readFreeMember, hgap.expectColon, InsertsFree]
  obtain ⟨err, hw, hnone⟩ | ⟨w, hw, hone⟩ := Scan.error_or_ok hread
  · simp [hw, hnone]
  · simp [hw, hone, @eq_comm _ rest]

/-- An object of free values is closed after its last member. -/
theorem readFreeObject_around {d : Nat} {gap : List Char} {es : List EntryText} (hgap : IsBlank gap)
    (hfits : ∀ e ∈ es, e.Fits .object) (htakes : ∀ e ∈ es, Takes readValue d e.value (Gives readValue d e.value))
    {t tail : List Char} (ht : Bracket.object.around gap es ++ tail = '\x7b' :: t) {N : Nat} (hN : t.length < N)
    (o : Object) (rest : List Char) :
    readFreeObject (readValue ⟨N, d⟩) N t = .ok (o, rest) ↔ Leads (InsertsFree d) es {} o ∧ rest = tail := by
  have hmembers := readMembers_around (M := InsertsFree d) hgap hfits
    (fun e he => takesMember_readFreeMember (hfits e he).before (htakes e he)) ht hN {}
  have hclose : closeObject ('\x7d' :: tail) = .ok tail := rfl
  rw [readFreeObject]
  obtain ⟨err, ho, hnone⟩ | ⟨o', ho, hone⟩ := Scan.error_or_ok hmembers
  · simp [ho, hnone]
  · simp [ho, hone, hclose, @eq_comm _ o, @eq_comm _ rest]

theorem local_readValue : Local readValue := by
  refine .of_takes fun d v hv => ?_
  induction hv generalizing d with
  | null =>
    refine ⟨fun a => .null = a, fun ws tail n hws _ _ a rest => ?_⟩
    rw [readValue, readValueWithin, IsValue.null.skipSpace_append hws]
    exact yielding_expectWord
  | isTrue =>
    refine ⟨fun a => .bool true = a, fun ws tail n hws _ _ a rest => ?_⟩
    rw [readValue, readValueWithin, IsValue.isTrue.skipSpace_append hws]
    exact yielding_expectWord
  | isFalse =>
    refine ⟨fun a => .bool false = a, fun ws tail n hws _ _ a rest => ?_⟩
    rw [readValue, readValueWithin, IsValue.isFalse.skipSpace_append hws]
    exact yielding_expectWord
  | @string u hu =>
    refine ⟨fun a => ∃ s, Spells u s ∧ .string (.ofList s) = a, fun ws tail n hws _ _ a rest => ?_⟩
    rw [readValue, readValueWithin, (IsValue.string hu).skipSpace_append hws, List.cons_append, List.append_assoc]
    exact Scan.as_eq_ok_iff_of (scanString_eq_ok_iff hu tail) _ a rest
  | @number u hu =>
    obtain ⟨P, hP⟩ := scansNumber_scanNumber false hu
    refine ⟨fun a => ∃ n, P n ∧ .number n = a, fun ws tail n hws htail _ a rest => ?_⟩
    have hskip := (IsValue.number hu).skipSpace_append hws tail
    have hread := Scan.as_eq_ok_iff_of (hP tail htail) Value.number a rest
    obtain ⟨c, t, rfl, hc⟩ := hu.exists_head
    have hne := fun d (hd : isDigit d = false) => ne_of_isDigit hc hd
    rw [List.cons_append] at hskip hread
    rw [readValue, readValueWithin, List.cons_append, hskip]
    simp [hne 'n' (by decide), hne 't' (by decide), hne 'f' (by decide), hne '"' (by decide), hne '-' (by decide),
      hne '[' (by decide), hne '{' (by decide), hc, hread]
  | @negative u hu =>
    obtain ⟨P, hP⟩ := scansNumber_scanNumber true hu
    refine ⟨fun a => ∃ n, P n ∧ .number n = a, fun ws tail n hws htail _ a rest => ?_⟩
    rw [readValue, readValueWithin, (IsValue.negative hu).skipSpace_append hws]
    exact Scan.as_eq_ok_iff_of (hP tail htail) _ a rest
  | @entries b gap es hgap hfits hvalues ih =>
    have hskip {ws : List Char} (hws : IsBlank ws) (tail : List Char) :=
      (IsValue.entries b hgap hfits hvalues).skipSpace_append hws tail
    cases d with
    | zero =>
      refine ⟨_, takes_false fun n ws tail hws x => ?_⟩
      rw [readValue, readValueWithin, hskip hws]
      cases b <;> exact error_ne_ok
    | succ d =>
      have htakes : ∀ e ∈ es, Takes readValue d e.value (Gives readValue d e.value) := by
        intro e he ws tail n hws htail hn a rest
        obtain ⟨P, hP⟩ := ih e he d
        rw [hP.gives_iff, hP hws htail hn]
      cases b with
      | list =>
        refine ⟨fun a => ∃ vs, List.Forall₂ (fun e w => Gives readValue d e.value w) es vs ∧ .array vs = a,
          fun ws tail n hws _ hn a rest => ?_⟩
        obtain ⟨t, htext, hlength⟩ := Bracket.list.exists_around_eq hn
        rw [readValue, readValueWithin, hskip hws, htext]
        exact Scan.as_eq_ok_iff_of (readElements_around hgap hfits hvalues htakes htext hlength) _ a rest
      | object =>
        refine ⟨fun a => ∃ o, Leads (InsertsFree d) es {} o ∧ .object o.members = a, fun ws tail n hws _ hn a rest => ?_⟩
        obtain ⟨t, htext, hlength⟩ := Bracket.object.exists_around_eq hn
        rw [readValue, readValueWithin, hskip hws, htext]
        exact Scan.as_eq_ok_iff_of (readFreeObject_around hgap hfits htakes htext hlength) _ a rest

end Free

/-! ## Choices -/

section Choices

variable {α : Type} {cases : List (String × α)}

theorem findCase_eq_ok_iff {name : String} {t rest : List Char} {a : α} :
    Codec.findCase cases name t = .ok (a, rest) ↔ (∃ key, cases.find? (fun c => c.1 = name) = some (key, a)) ∧ rest = t := by
  unfold Codec.findCase
  cases cases.find? fun c => c.1 = name with
  | none => simp
  | some c => simp [Prod.ext_iff, @eq_comm _ rest]

/-- The rest of a case in its object form: its value is `null` and nothing follows. -/
theorem readCaseBody_eq_ok_iff {e : EntryText} {gap : List Char} (hgap : IsBlank gap) (he : e.Fits .object)
    (hv : IsValue e.value) (es : List EntryText) (tail rest : List Char) :
    Codec.readCaseBody (gap ++ ':' :: (e.before ++ (e.value ++ EntryText.rest .object e.after es tail))) = .ok rest ↔
      (e.value = ['n', 'u', 'l', 'l'] ∧ es = []) ∧ rest = tail := by
  have hskip := hv.skipSpace_append he.before (EntryText.rest .object e.after es tail)
  simp only [Codec.readCaseBody, hgap.expectColon, bind, Except.bind, hskip]
  by_cases hnull : e.value = ['n', 'u', 'l', 'l']
  · have hword : expectWord ['u', 'l', 'l'] ('u' :: 'l' :: 'l' :: EntryText.rest .object e.after es tail) =
        .ok (EntryText.rest .object e.after es tail) := rfl
    simp only [hnull, List.cons_append, List.nil_append, hword]
    cases es with
    | nil =>
      rw [EntryText.skipSpace_rest_nil he.after]
      simp [Bracket.closing, @eq_comm _ rest]
    | cons f es =>
      rw [EntryText.skipSpace_rest_cons he.after]
      simp
  · refine iff_of_false ?_ fun h => hnull h.1.1
    split
    · rename_i ht
      exact absurd (hv.of_letter (w := ['u', 'l', 'l']) ht (by simp)).1 hnull
    · exact error_ne_ok

namespace Codec

/-- The string form of a case. -/
theorem takes_choice_string (name : α → String) {u : List Char} (hu : IsStringBody u) (d : Nat) :
    Takes (choice cases name).read d ('"' :: (u ++ ['"'])) fun a =>
      ∃ s, Spells u s ∧ ∃ key, cases.find? (fun c => c.1 = String.ofList s) = some (key, a) := by
  intro ws tail n hws _ _ a rest
  simp only [choice]
  rw [(IsValue.string hu).skipSpace_append hws, List.cons_append, List.append_assoc]
  dsimp only [List.singleton_append]
  obtain ⟨err, hread, hnone⟩ | ⟨s, hread, hone⟩ := Scan.error_or_ok (scanString_eq_ok_iff hu tail)
  · simp [hread, hnone]
  · simp [hread, hone, findCase_eq_ok_iff]

/-- The object form of a case, in which it has the only key. -/
theorem takes_choice_object (name : α → String) {gap : List Char} {e : EntryText} {es : List EntryText} (hgap : IsBlank gap)
    (hfits : ∀ f ∈ e :: es, f.Fits .object) (hvalues : ∀ f ∈ e :: es, IsValue f.value) {u : List Char} (hspelled : e.Spelled u)
    (hu : IsStringBody u) (d : Nat) : Takes (choice cases name).read (d + 1) (Bracket.object.around gap (e :: es)) fun a =>
      (∃ s, Spells u s ∧ ∃ key, cases.find? (fun c => c.1 = String.ofList s) = some (key, a)) ∧
        e.value = ['n', 'u', 'l', 'l'] ∧ es = [] := by
  intro ws tail n hws _ _ a rest
  obtain ⟨lead, colon, hlead, hcolon, hkey⟩ := hspelled
  have htext : gap ++ (e.key ++ (e.before ++ (e.value ++ EntryText.rest .object e.after es tail))) =
      (gap ++ lead) ++ '"' :: (u ++ '"' :: (colon ++ ':' :: (e.before ++ (e.value ++ EntryText.rest .object e.after es tail)))) := by
    simp [hkey]
  have hquote (r : List Char) : skipSpace (gap ++ lead ++ '"' :: r) = '"' :: r := skipSpace_append (hgap.append hlead) rfl
  simp only [choice]
  rw [(IsValue.entries .object hgap hfits hvalues).skipSpace_append hws, EntryText.around_append]
  simp only [enter, Bracket.opening]
  rw [readString, htext, hquote]
  obtain ⟨err, hread, hnone⟩ | ⟨s, hread, hone⟩ := Scan.error_or_ok
    (scanString_eq_ok_iff hu (colon ++ ':' :: (e.before ++ (e.value ++ EntryText.rest .object e.after es tail))))
  · simp [hread, hnone, Scan.as]
  · have hbody := readCaseBody_eq_ok_iff hcolon (hfits e (by simp)) (hvalues e (by simp)) es tail
    simp only [hread, hone, Scan.as, exists_eq_left]
    cases hfind : cases.find? fun c => c.1 = String.ofList s with
    | none => simp [findCase, hfind]
    | some c =>
      simp only [findCase, hfind, yielding_eq_ok_iff, hbody, Option.some.injEq, Prod.ext_iff, exists_eq_left']
      tauto

theorem local_choice (cases : List (String × α)) (name : α → String) : Local (choice cases name).read := by
  refine .of_takes fun d v hv => ?_
  have hskip {ws : List Char} (hws : IsBlank ws) (tail : List Char) := hv.skipSpace_append hws tail
  by_cases hstring : ∃ u, IsStringBody u ∧ v = '"' :: (u ++ ['"'])
  · obtain ⟨u, hu, rfl⟩ := hstring
    exact ⟨_, takes_choice_string name hu d⟩
  by_cases hobject : Bracket.object.Encloses v
  · obtain ⟨gap, es, hgap, hfits, hvalues, rfl⟩ := hobject
    cases d with
    | zero =>
      refine ⟨_, takes_false fun n ws tail hws x => ?_⟩
      simp only [choice, hskip hws]
      exact error_ne_ok
    | succ d =>
      cases es with
      | nil =>
        refine ⟨_, takes_false fun n ws tail hws x => ?_⟩
        have hend : skipSpace (gap ++ Bracket.object.closing :: tail) = '\x7d' :: tail :=
          Json.skipSpace_append hgap Bracket.object.isSpace_closing
        simp only [choice]
        rw [hskip hws, EntryText.around_nil_append]
        simp only [enter, Bracket.opening]
        rw [readString, hend]
        exact error_ne_ok
      | cons e es =>
        obtain ⟨u, hspelled, hu⟩ := (hfits e (by simp)).key
        exact ⟨_, takes_choice_object name hgap hfits hvalues hspelled hu d⟩
  · refine ⟨_, takes_false fun n ws tail hws x => ?_⟩
    simp only [choice]
    rw [hskip hws]
    split
    · exact error_ne_ok
    · rename_i ht
      obtain ⟨u, hu, hv, -⟩ := hv.of_quote ht
      exact absurd ⟨u, hu, hv⟩ hstring
    · rename_i ht
      exact absurd (hv.of_opening (b := .object) ht) hobject
    · exact error_ne_ok

end Codec

end Choices

/-! ## Texts -/

/-- A text is accepted as what is made of the one value in it. -/
theorem Local.ofText_iff {α : Type} {c : Codec α} (h : Local c.read) {before v after : List Char} (hbefore : IsBlank before)
    (hv : IsValue v) (hafter : IsBlank after) (a : α) :
    c.ofText (.ofList (before ++ (v ++ after))) = .ok a ↔ Gives c.read 127 v a := by
  have hends : Ends after := by
    have h := Ends.append hafter .nil
    rwa [List.append_nil] at h
  have hread := h hv hbefore hends (n := (before ++ (v ++ after)).length + 1) (Nat.lt_succ_self _) (d := 127)
  have hskip : skipSpace after = [] := List.dropWhile_eq_nil_iff.2 hafter
  rw [Codec.ofText, readText, String.toList_ofList]
  dsimp only [Limits.forText]
  obtain ⟨err, hread, hnone⟩ | ⟨b, hread, hone⟩ := Scan.error_or_ok hread
  · simp only [hread, hnone, reduceCtorEq]
  · simp only [hread, hskip, hone, Except.ok.injEq, @eq_comm _ a]

end Webform.Json
