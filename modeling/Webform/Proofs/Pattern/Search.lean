import Webform.Pattern.Search

/-!
# What a search finds

Where a search says that an expression matches some part of a text, there is such a part: a place that is reached from a set of
places is the end of a match that starts at one of them (`along_ends`). Repetitions must not ask for more times than they allow.
-/

namespace Webform.Pattern

open Unicode (CharSet)

/-! ## Sets of places -/

/-- The places that pass a test, counted on from `i`. -/
theorem testBit_placesWhere (p : Option Char → Option Char → Bool) (before : Option Char) (i k : Nat) (cs : List Char) :
    (placesWhere p before i cs).testBit k = true ↔
      i ≤ k ∧ k ≤ i + cs.length ∧ p (if k = i then before else cs[k - i - 1]?) cs[k - i]? = true := by
  induction cs generalizing before i with
  | nil =>
    rw [placesWhere]
    by_cases hk : k = i
    · subst hk
      by_cases hp : p before none = true
      · simp [hp]
      · simp [hp]
    · have hnot : ¬(i ≤ k ∧ k ≤ i) := fun h => hk (Nat.le_antisymm h.2 h.1)
      simp only [List.length_nil, Nat.add_zero, ← and_assoc, hnot, false_and, iff_false]
      split <;> simp [Ne.symm hk]
  | cons c cs ih =>
    rw [placesWhere, Nat.testBit_or, Bool.or_eq_true, ih]
    by_cases hk : k = i
    · subst hk
      have hnot : ¬k + 1 ≤ k := by omega
      by_cases hp : p before (some c) = true
      · simp [hp]
      · simp [hp, hnot]
    · have hhead : ((if p before (some c) then Nat.pow 2 i else 0).testBit k = true) = False := by
        split <;> simp [Ne.symm hk]
      simp only [hhead, false_or, List.length_cons, if_neg hk]
      by_cases hle : i < k
      · obtain ⟨d, rfl⟩ : ∃ d, k = i + 1 + d := ⟨k - i - 1, by omega⟩
        have hlow : i ≤ i + 1 + d := by omega
        have hhigh : i + 1 + d ≤ i + 1 + cs.length ↔ i + 1 + d ≤ i + (cs.length + 1) := by omega
        have hone : i + 1 + d - i = d + 1 := by omega
        have htwo : i + 1 + d - (i + 1) = d := by omega
        rw [hone, htwo, hhigh]
        cases d with
        | zero => simp
        | succ d => simp [hlow]
      · have hnot : ¬i + 1 ≤ k := by omega
        have hnot' : ¬i ≤ k := by omega
        simp [hnot, hnot']

/-- A place of a text passes a test exactly when the characters before and after it do. -/
theorem testBit_placesWhere_text (p : Option Char → Option Char → Bool) (k : Nat) (text : List Char) :
    (placesWhere p none 0 text).testBit k = true ↔ k ≤ text.length ∧ p (before? text k) text[k]? = true := by
  rw [testBit_placesWhere]
  cases k <;> simp [before?]

/-- The places of a set of characters are those where one of them stands. -/
theorem testBit_placesOf (s : CharSet) (k : Nat) (text : List Char) :
    (placesOf s text).testBit k = true ↔ ∃ c, text[k]? = some c ∧ s.contains c.toNat = true := by
  rw [placesOf, testBit_placesWhere_text]
  cases hc : text[k]? with
  | none => simp
  | some c =>
    have hk : k < text.length := (List.getElem?_eq_some_iff.1 hc).1
    simp [Nat.le_of_lt hk]

/-! ## Repetitions -/

namespace Expr

/-- Matches in a row, one more after them. -/
theorem Times.snoc {text : List Char} {e : Expr} {n i j k : Nat} (h : Times text e n i j) (hlast : Matches text e j k) :
    Times text e (n + 1) i k := by
  induction n generalizing i with
  | zero =>
    cases h
    exact .succ e 0 _ k k hlast (.zero e k)
  | succ n ih =>
    cases h with
    | succ _ _ _ m _ hfirst hrest => exact .succ e (n + 1) i m k hfirst (ih hrest)

/-- No repetition in the expression asks for more times than it allows. -/
def Bounded : Expr → Prop
  | empty | one _ | look _ => True
  | seq a b | alt a b => a.Bounded ∧ b.Bounded
  | rep min max _ e => (∀ m, max = some m → min ≤ m) ∧ e.Bounded
  | group _ e => e.Bounded

end Expr

/-- A step that leads along matches of an expression only. -/
def Along (text : List Char) (e : Expr) (step : Places → Places) : Prop :=
  ∀ s j, (step s).testBit j = true → ∃ i, s.testBit i = true ∧ e.Matches text i j

variable {text : List Char} {e : Expr} {step : Places → Places}

/-- Where a step leads nowhere else, its places are ends of any number of matches. -/
theorem Along.exists_times_of_fixed (h : Along text e step) {s : Places} (hfixed : step s = s) (n : Nat) {j : Nat}
    (hj : s.testBit j = true) : ∃ i, s.testBit i = true ∧ e.Times text n i j := by
  induction n with
  | zero => exact ⟨j, hj, .zero e j⟩
  | succ n ih =>
    obtain ⟨i, hi, htimes⟩ := ih
    obtain ⟨k, hk, hmatch⟩ := h s i (hfixed.symm ▸ hi)
    exact ⟨k, hk, .succ e n k i j hmatch htimes⟩

/-- The places after a number of steps are ends of as many matches. -/
theorem Along.exists_times_of_iterate (h : Along text e step) (n : Nat) {s : Places} {j : Nat}
    (hj : (iterate step n s).testBit j = true) : ∃ i, s.testBit i = true ∧ e.Times text n i j := by
  induction n generalizing s with
  | zero => exact ⟨j, hj, .zero e j⟩
  | succ n ih =>
    rw [iterate] at hj
    by_cases hfixed : step s = s
    · rw [if_pos hfixed] at hj
      exact h.exists_times_of_fixed hfixed (n + 1) hj
    · rw [if_neg hfixed] at hj
      obtain ⟨i, hi, htimes⟩ := ih hj
      obtain ⟨k, hk, hmatch⟩ := h s i hi
      exact ⟨k, hk, .succ e n k i j hmatch htimes⟩

/-- The places reached by at most some number of steps more are ends of at most so many matches more. -/
theorem Along.exists_times_of_spread (h : Along text e step) {least : Nat} {start : Places} (n : Nat) {seen fresh : Places}
    {used : Nat}
    (hseen : ∀ j, seen.testBit j = true → ∃ m i, (least ≤ m ∧ m ≤ used) ∧ start.testBit i = true ∧ e.Times text m i j)
    (hfresh : ∀ j, fresh.testBit j = true → ∃ m i, (least ≤ m ∧ m ≤ used) ∧ start.testBit i = true ∧ e.Times text m i j) {j : Nat}
    (hj : (spread step n seen fresh).testBit j = true) :
    ∃ m i, (least ≤ m ∧ m ≤ used + n) ∧ start.testBit i = true ∧ e.Times text m i j := by
  induction n generalizing seen fresh used with
  | zero => exact hseen j hj
  | succ n ih =>
    rw [spread] at hj
    have hnew : ∀ k, (step fresh ^^^ (step fresh &&& seen)).testBit k = true →
        ∃ m i, (least ≤ m ∧ m ≤ used + 1) ∧ start.testBit i = true ∧ e.Times text m i k := by
      intro k hk
      have hstep : (step fresh).testBit k = true := by
        rw [Nat.testBit_xor, Nat.testBit_and] at hk
        cases hbit : (step fresh).testBit k <;> simp_all
      obtain ⟨l, hl, hmatch⟩ := h fresh k hstep
      obtain ⟨m, i, hm, hi, htimes⟩ := hfresh l hl
      exact ⟨m + 1, i, by omega, hi, htimes.snoc hmatch⟩
    have hold : ∀ k, seen.testBit k = true → ∃ m i, (least ≤ m ∧ m ≤ used + 1) ∧ start.testBit i = true ∧ e.Times text m i k := by
      intro k hk
      obtain ⟨m, i, hm, hi, htimes⟩ := hseen k hk
      exact ⟨m, i, by omega, hi, htimes⟩
    split at hj
    · obtain ⟨m, i, hm, hi, htimes⟩ := hseen j hj
      exact ⟨m, i, by omega, hi, htimes⟩
    · have hboth : ∀ k, (seen ||| (step fresh ^^^ (step fresh &&& seen))).testBit k = true →
          ∃ m i, (least ≤ m ∧ m ≤ used + 1) ∧ start.testBit i = true ∧ e.Times text m i k := by
        intro k hk
        rw [Nat.testBit_or, Bool.or_eq_true] at hk
        rcases hk with hk | hk
        · exact hold k hk
        · exact hnew k hk
      obtain ⟨m, i, hm, hi, htimes⟩ := ih hboth hnew hj
      exact ⟨m, i, by omega, hi, htimes⟩

/-! ## Expressions -/

/-- A place that an expression leads to from a set of places is the end of a match that starts at one of them. -/
theorem along_ends (text : List Char) {e : Expr} (hbounded : e.Bounded) : Along text e ((e.along text).ends text.length) := by
  induction e with
  | empty => exact fun s j hj => ⟨j, hj, .empty j⟩
  | one set =>
    intro s j hj
    rw [Expr.along, Route.ends, Nat.testBit_shiftLeft, Bool.and_eq_true, Nat.testBit_and, Bool.and_eq_true,
      testBit_placesOf] at hj
    obtain ⟨hpos, hfrom, c, hc, hset⟩ := hj
    obtain ⟨i, rfl⟩ : ∃ i, j = i + 1 := ⟨j - 1, (Nat.succ_pred_eq_of_pos (of_decide_eq_true hpos)).symm⟩
    exact ⟨i, hfrom, .one set i c hc hset⟩
  | look l =>
    intro s j hj
    rw [Expr.along, Route.ends, Nat.testBit_and, Bool.and_eq_true, testBit_placesWhere_text] at hj
    exact ⟨j, hj.1, .look l j hj.2.2⟩
  | seq a b iha ihb =>
    intro s k hk
    obtain ⟨j, hj, hsecond⟩ := ihb hbounded.2 _ k hk
    obtain ⟨i, hi, hfirst⟩ := iha hbounded.1 s j hj
    exact ⟨i, hi, .seq a b i j k hfirst hsecond⟩
  | alt a b iha ihb =>
    intro s j hj
    rw [Expr.along, Route.ends, Nat.testBit_or, Bool.or_eq_true] at hj
    rcases hj with hj | hj
    · obtain ⟨i, hi, hmatch⟩ := iha hbounded.1 s j hj
      exact ⟨i, hi, .left a b i j hmatch⟩
    · obtain ⟨i, hi, hmatch⟩ := ihb hbounded.2 s j hj
      exact ⟨i, hi, .right a b i j hmatch⟩
  | rep min max greedy e ih =>
    intro s j hj
    have hstep := ih hbounded.2
    have hstart : ∀ k, (iterate ((e.along text).ends text.length) min s).testBit k = true →
        ∃ m i, (min ≤ m ∧ m ≤ min) ∧ s.testBit i = true ∧ e.Times text m i k := by
      intro k hk
      obtain ⟨i, hi, htimes⟩ := hstep.exists_times_of_iterate min hk
      exact ⟨min, i, ⟨Nat.le_refl _, Nat.le_refl _⟩, hi, htimes⟩
    obtain ⟨n, i, ⟨hmin, hmax⟩, hi, htimes⟩ := hstep.exists_times_of_spread _ hstart hstart hj
    refine ⟨i, hi, .rep min max greedy e n i j hmin (fun m hm => ?_) htimes⟩
    subst hm
    have hle := hbounded.1 m rfl
    have hfew : n ≤ min + Nat.min (m - min) (text.length + 1) := hmax
    have hless : Nat.min (m - min) (text.length + 1) ≤ m - min := Nat.min_le_left _ _
    omega
  | group captures e ih =>
    intro s j hj
    obtain ⟨i, hi, hmatch⟩ := ih hbounded s j hj
    exact ⟨i, hi, .group captures e i j hmatch⟩

/-- A text that is found to match does match somewhere, from a place that it has. -/
theorem exists_matches_of_search {e : Expr} {text : List Char} (hbounded : e.Bounded) (h : e.search text = true) :
    ∃ i j, i ≤ text.length ∧ e.Matches text i j := by
  rw [Expr.search, bne_iff_ne] at h
  obtain ⟨j, hj⟩ := Nat.exists_testBit_of_ne_zero h
  obtain ⟨i, hi, hmatch⟩ := along_ends text hbounded _ j hj
  have hlt : i < text.length + 1 := of_decide_eq_true ((Nat.testBit_two_pow_sub_one _ i).symm.trans hi)
  exact ⟨i, j, Nat.le_of_lt_succ hlt, hmatch⟩

/-! ## Whole texts -/

namespace Expr

/-- Matches in a row stay within a text that each of them stays within. -/
theorem Times.le_length {text : List Char} {e : Expr} {n i j : Nat}
    (hstep : ∀ i j, Matches text e i j → i ≤ text.length → j ≤ text.length) (h : Times text e n i j) (hi : i ≤ text.length) :
    j ≤ text.length := by
  induction n generalizing i with
  | zero =>
    cases h
    exact hi
  | succ n ih =>
    cases h with
    | succ _ _ _ k _ hfirst hrest => exact ih hrest (hstep i k hfirst hi)

/-- A match stays within the text. -/
theorem Matches.le_length {text : List Char} {e : Expr} {i j : Nat} (h : Matches text e i j) (hi : i ≤ text.length) :
    j ≤ text.length := by
  induction e generalizing i j with
  | empty | look _ =>
    cases h
    exact hi
  | one s =>
    cases h with
    | one _ _ c hc _ => exact (List.getElem?_eq_some_iff.1 hc).1
  | seq a b iha ihb =>
    cases h with
    | seq _ _ _ k _ hfirst hsecond => exact ihb hsecond (iha hfirst hi)
  | alt a b iha ihb =>
    cases h with
    | left _ _ _ _ hmatch => exact iha hmatch hi
    | right _ _ _ _ hmatch => exact ihb hmatch hi
  | rep min max greedy e ih =>
    cases h with
    | rep _ _ _ _ n _ _ _ _ htimes => exact htimes.le_length (fun _ _ => ih) hi
  | group captures e ih =>
    cases h with
    | group _ _ _ _ hmatch => exact ih hmatch hi

/-- An expression for texts that another one matches from start to end. -/
def whole (e : Expr) : Expr := .seq (.look .textStart) (.seq (.group false e) (.look .textEnd))

/-- Where the expression for whole texts matches some part of a text, the other one matches all of it. -/
theorem Matches.of_whole {text : List Char} {e : Expr} {i j : Nat} (h : Matches text e.whole i j) (hi : i ≤ text.length) :
    Matches text e 0 text.length := by
  cases h with
  | seq _ _ _ k _ hstart h =>
    cases h with
    | seq _ _ _ l _ hgroup hend =>
      cases hstart with
      | look _ _ hbefore =>
        cases hend with
        | look _ _ hafter =>
          cases hgroup with
          | group _ _ _ _ hmatch =>
            have hfirst : i = 0 := by
              by_cases hzero : i = 0
              · exact hzero
              · have hlt : i - 1 < text.length := by omega
                simp [Look.holds, before?, hzero, List.getElem?_eq_getElem hlt] at hbefore
            have hlast : text.length ≤ j := by simpa [Look.holds] using hafter
            have hle := hmatch.le_length hi
            rw [hfirst, Nat.le_antisymm hle hlast] at hmatch
            exact hmatch

end Expr

end Webform.Pattern
