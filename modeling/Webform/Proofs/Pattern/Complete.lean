import Webform.Proofs.Pattern.Search

/-!
# What a search does not miss

Every match of an expression is found: a set of places that holds the start of a match leads to a set that holds its end
(`covers_ends`). A search repeats an expression for no more rounds than the text has places, which is enough because a repetition
that takes no characters can be left out (`Expr.Times.few`). With the converse (`along_ends`) a search decides whether an
expression matches some part of a text (`search_iff`), and the expression for whole texts whether it matches all of it
(`search_whole_iff`).
-/

namespace Webform.Pattern

namespace Expr

variable {text : List Char} {e : Expr}

/-! ## Matches go forward -/

/-- Matches in a row go forward if each of them does. -/
theorem Times.le {n i j : Nat} (hstep : ∀ i j, Matches text e i j → i ≤ j) (h : Times text e n i j) : i ≤ j := by
  induction n generalizing i with
  | zero =>
    cases h
    exact Nat.le_refl _
  | succ n ih =>
    cases h with
    | succ _ _ _ k _ hfirst hrest => exact Nat.le_trans (hstep i k hfirst) (ih hrest)

/-- A match does not end before it starts. -/
theorem Matches.le {i j : Nat} (h : Matches text e i j) : i ≤ j := by
  induction e generalizing i j with
  | empty | look _ =>
    cases h
    exact Nat.le_refl _
  | one s =>
    cases h
    exact Nat.le_succ _
  | seq a b iha ihb =>
    cases h with
    | seq _ _ _ k _ hfirst hsecond => exact Nat.le_trans (iha hfirst) (ihb hsecond)
  | alt a b iha ihb =>
    cases h with
    | left _ _ _ _ hmatch => exact iha hmatch
    | right _ _ _ _ hmatch => exact ihb hmatch
  | rep min max greedy e ih =>
    cases h with
    | rep _ _ _ _ n _ _ _ _ htimes => exact htimes.le fun _ _ => ih
  | group captures e ih =>
    cases h with
    | group _ _ _ _ hmatch => exact ih hmatch

/-- Matches in a row, cut in two. -/
theorem Times.split {m n i j : Nat} (h : Times text e (m + n) i j) : ∃ k, Times text e m i k ∧ Times text e n k j := by
  induction m generalizing i with
  | zero =>
    rw [Nat.zero_add] at h
    exact ⟨i, .zero e i, h⟩
  | succ m ih =>
    rw [Nat.succ_add] at h
    cases h with
    | succ _ _ _ l _ hfirst hrest =>
      obtain ⟨k, hk, hrest⟩ := ih hrest
      exact ⟨k, .succ e m i l k hfirst hk, hrest⟩

/-- Of matches in a row those that take no characters can be left out, so that there are no more matches than characters. -/
theorem Times.few {n i j : Nat} (h : Times text e n i j) : ∃ m, m ≤ n ∧ m ≤ j - i ∧ Times text e m i j := by
  induction n generalizing i with
  | zero => exact ⟨0, Nat.le_refl _, Nat.zero_le _, h⟩
  | succ n ih =>
    cases h with
    | succ _ _ _ k _ hfirst hrest =>
      obtain ⟨m, hn, hm, htimes⟩ := ih hrest
      have hik := hfirst.le
      have hkj := htimes.le fun _ _ => Matches.le
      rcases Nat.eq_or_lt_of_le hik with rfl | hlt
      · exact ⟨m, by omega, hm, htimes⟩
      · exact ⟨m + 1, by omega, by omega, .succ e m i k j hfirst htimes⟩

end Expr

/-! ## Steps that miss no match -/

/-- A set of places that holds the end of every match that starts in it. -/
def IsClosed (text : List Char) (e : Expr) (s : Places) : Prop :=
  ∀ i j, i ≤ text.length → s.testBit i = true → e.Matches text i j → s.testBit j = true

/-- A step that leads along every match of an expression that starts at a place of the text. -/
def Covers (text : List Char) (e : Expr) (step : Places → Places) : Prop :=
  ∀ s i j, i ≤ text.length → s.testBit i = true → e.Matches text i j → (step s).testBit j = true

variable {text : List Char} {e : Expr} {step : Places → Places}

theorem IsClosed.times {s : Places} (h : IsClosed text e s) {n i j : Nat} (hi : i ≤ text.length) (hmem : s.testBit i = true)
    (htimes : e.Times text n i j) : s.testBit j = true := by
  induction n generalizing i with
  | zero =>
    cases htimes
    exact hmem
  | succ n ih =>
    cases htimes with
    | succ _ _ _ k _ hfirst hrest => exact ih (hfirst.le_length hi) (h i k hi hmem hfirst) hrest

/-- A number of steps leads along as many matches in a row. -/
theorem Covers.iterate (h : Covers text e step) {n : Nat} {s : Places} {i j : Nat} (hi : i ≤ text.length)
    (hmem : s.testBit i = true) (htimes : e.Times text n i j) : (iterate step n s).testBit j = true := by
  induction n generalizing s i with
  | zero =>
    cases htimes
    exact hmem
  | succ n ih =>
    rw [Webform.Pattern.iterate]
    by_cases hfixed : step s = s
    · rw [if_pos hfixed]
      have hclosed : IsClosed text e s := fun k l hk hs hmatch => hfixed ▸ h s k l hk hs hmatch
      exact hclosed.times hi hmem htimes
    · rw [if_neg hfixed]
      cases htimes with
      | succ _ _ _ k _ hfirst hrest => exact ih (hfirst.le_length hi) (h s i k hi hmem hfirst) hrest

/-- What has been reached stays reached. -/
theorem testBit_spread_of_seen {n : Nat} {seen fresh : Places} {j : Nat} (hj : seen.testBit j = true) :
    (spread step n seen fresh).testBit j = true := by
  induction n generalizing seen fresh with
  | zero => exact hj
  | succ n ih =>
    rw [spread]
    split
    · exact hj
    · refine ih ?_
      rw [Nat.testBit_or, hj, Bool.true_or]

/-- A round adds the places that it leads to and that have not been reached before. -/
theorem testBit_new (next seen : Places) (k : Nat) :
    (next ^^^ (next &&& seen)).testBit k = true ↔ next.testBit k = true ∧ seen.testBit k = false := by
  rw [Nat.testBit_xor, Nat.testBit_and]
  cases next.testBit k <;> cases seen.testBit k <;> decide

/-- So many rounds reach the ends of at most as many matches in a row, when every place that was reached before the last ones has
been followed. -/
theorem Covers.spread (h : Covers text e step) {n : Nat} {seen fresh : Places}
    (hfollowed : ∀ i j, i ≤ text.length → seen.testBit i = true → e.Matches text i j → seen.testBit j = true ∨ fresh.testBit i = true)
    {m i j : Nat} (hm : m ≤ n) (hi : i ≤ text.length) (hmem : seen.testBit i = true) (htimes : e.Times text m i j) :
    (spread step n seen fresh).testBit j = true := by
  induction n generalizing seen fresh m i with
  | zero =>
    obtain rfl : m = 0 := Nat.le_zero.1 hm
    cases htimes
    exact hmem
  | succ n ih =>
    rw [Webform.Pattern.spread]
    -- A place that has been reached leads to places that were reached before or are new.
    have hlead : ∀ k l, k ≤ text.length → seen.testBit k = true → e.Matches text k l →
        seen.testBit l = true ∨ (step fresh ^^^ (step fresh &&& seen)).testBit l = true := by
      intro k l hle hk hmatch
      rcases hfollowed k l hle hk hmatch with hold | hfresh
      · exact Or.inl hold
      · rw [testBit_new, h fresh k l hle hfresh hmatch]
        cases seen.testBit l with
        | true => exact Or.inl rfl
        | false => exact Or.inr ⟨rfl, rfl⟩
    by_cases hnone : step fresh ^^^ (step fresh &&& seen) = 0
    · rw [if_pos hnone]
      have hclosed : IsClosed text e seen := by
        intro k l hle hk hmatch
        rcases hlead k l hle hk hmatch with hold | hnew
        · exact hold
        · rw [hnone, Nat.zero_testBit] at hnew
          cases hnew
      exact hclosed.times hi hmem htimes
    · rw [if_neg hnone]
      cases htimes with
      | zero => exact testBit_spread_of_seen (by rw [Nat.testBit_or, hmem, Bool.true_or])
      | succ _ m _ k _ hfirst hrest =>
        refine ih ?_ (Nat.le_of_succ_le_succ hm) (hfirst.le_length hi) ?_ hrest
        · intro k l hle hk hmatch
          rw [Nat.testBit_or, Bool.or_eq_true] at hk ⊢
          rcases hk with hk | hk
          · exact Or.inl (hlead k l hle hk hmatch)
          · exact Or.inr hk
        · rw [Nat.testBit_or, Bool.or_eq_true]
          exact hlead i k hi hmem hfirst

/-! ## Expressions -/

/-- The end of a match is among the places that its expression leads to from a set of places that holds its start. -/
theorem covers_ends (text : List Char) (e : Expr) : Covers text e ((e.along text).ends text.length) := by
  induction e with
  | empty =>
    intro s i j _ hmem hmatch
    cases hmatch
    exact hmem
  | one set =>
    intro s i j _ hmem hmatch
    cases hmatch with
    | one _ _ c hc hset =>
      have hplace : (placesOf set text).testBit i = true := (testBit_placesOf set i text).2 ⟨c, hc, hset⟩
      rw [Expr.along, Route.ends, Nat.testBit_shiftLeft, Nat.testBit_and, Nat.add_sub_cancel, hmem, hplace]
      simp
  | look l =>
    intro s i j hi hmem hmatch
    cases hmatch with
    | look _ _ hholds =>
      have hplace := (testBit_placesWhere_text l.holds i text).2 ⟨hi, hholds⟩
      rw [Expr.along, Route.ends, Nat.testBit_and, hmem, hplace]
      rfl
  | seq a b iha ihb =>
    intro s i j hi hmem hmatch
    cases hmatch with
    | seq _ _ _ k _ hfirst hsecond => exact ihb _ k j (hfirst.le_length hi) (iha s i k hi hmem hfirst) hsecond
  | alt a b iha ihb =>
    intro s i j hi hmem hmatch
    rw [Expr.along, Route.ends, Nat.testBit_or, Bool.or_eq_true]
    cases hmatch with
    | left _ _ _ _ hleft => exact Or.inl (iha s i j hi hmem hleft)
    | right _ _ _ _ hright => exact Or.inr (ihb s i j hi hmem hright)
  | rep min max greedy e ih =>
    intro s i j hi hmem hmatch
    cases hmatch with
    | rep _ _ _ _ n _ _ hmin hmax htimes =>
      obtain ⟨more, rfl⟩ := Nat.exists_eq_add_of_le hmin
      obtain ⟨k, hfirst, hrest⟩ := htimes.split
      have hk := hfirst.le_length (fun _ _ h => h.le_length) hi
      have hj := hrest.le_length (fun _ _ h => h.le_length) hk
      -- What is beyond the least number of times takes no more rounds than the text has characters.
      obtain ⟨m, hm, hfew, hrest⟩ := hrest.few
      refine ih.spread (fun _ _ _ hstart _ => Or.inr hstart) ?_ hk (ih.iterate hi hmem hfirst) hrest
      cases max with
      | none =>
        show m ≤ text.length + 1
        omega
      | some most =>
        have hmost := hmax most rfl
        exact Nat.le_min.2 ⟨by omega, by omega⟩
  | group captures e ih =>
    intro s i j hi hmem hmatch
    cases hmatch with
    | group _ _ _ _ hmatch => exact ih s i j hi hmem hmatch

/-- A search finds a match exactly where there is one. -/
theorem search_iff {e : Expr} (hbounded : e.Bounded) (text : List Char) :
    e.search text = true ↔ ∃ i j, i ≤ text.length ∧ e.Matches text i j := by
  refine ⟨exists_matches_of_search hbounded, ?_⟩
  rintro ⟨i, j, hi, hmatch⟩
  have hstart : (Nat.pow 2 (text.length + 1) - 1).testBit i = true :=
    (Nat.testBit_two_pow_sub_one (text.length + 1) i).trans (decide_eq_true (Nat.lt_succ_of_le hi))
  have hend := covers_ends text e _ i j hi hstart hmatch
  rw [Expr.search, bne_iff_ne]
  intro hzero
  rw [hzero, Nat.zero_testBit] at hend
  cases hend

/-! ## Whole texts -/

/-- Where an expression matches all of a text, so does the one for whole texts. -/
theorem Expr.Matches.whole (h : e.Matches text 0 text.length) : e.whole.Matches text 0 text.length := by
  have hstart : Expr.Matches text (.look .textStart) 0 0 := .look .textStart 0 rfl
  have hend : Expr.Matches text (.look .textEnd) text.length text.length := .look .textEnd text.length (by simp [Look.holds])
  exact .seq _ _ 0 0 _ hstart (.seq _ _ 0 _ _ (.group false e 0 _ h) hend)

/-- The expression for whole texts is found in a text exactly when the other one matches all of it. -/
theorem search_whole_iff (hbounded : e.Bounded) (text : List Char) :
    e.whole.search text = true ↔ e.Matches text 0 text.length := by
  have hwhole : e.whole.Bounded := ⟨trivial, hbounded, trivial⟩
  rw [search_iff hwhole]
  constructor
  · rintro ⟨i, j, hi, hmatch⟩
    exact hmatch.of_whole hi
  · exact fun h => ⟨0, text.length, Nat.zero_le _, h.whole⟩

end Webform.Pattern
