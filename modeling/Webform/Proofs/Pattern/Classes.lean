import Webform.Pattern.Bracket
import Webform.Proofs.Pattern.Pieces

/-!
# Classes that more text follows

A class that is read to its closing bracket is read in the same way when text follows that closes a group, and that text is
left: within the brackets nothing is passed over to the end of the pattern.
-/

namespace Webform.Pattern

open Unicode (CharSet)

/-! ## Items and ranges -/

theorem persists_classItem? {fs : Flags} {cs rest : List Char} {x : Primitive} (h : classItem? fs cs = some (x, rest)) :
    Persists (classItem? fs) cs x rest := by
  unfold classItem? at h
  split at h
  · cases h
  · exact (persists_escape? h).of_suffix (List.suffix_cons _ _) fun _ => rfl
  · cases h
    exact Or.inl fun ys _ => by simp [classItem?]

/-- Text that closes a group is not passed over by a look at the next character. -/
theorem peekPast_append {marked : Bool} (cs : List Char) {ys : List Char} (hys : Closes ys) :
    peekPast marked (cs ++ ys) = (peekPast marked cs).or (some ')') := by
  induction cs generalizing marked with
  | nil =>
    obtain ⟨t, rfl⟩ := hys.first
    cases marked <;> rfl
  | cons c cs ih =>
    rw [List.cons_append, peekPast, peekPast]
    split
    · exact ih
    · split
      · exact ih
      · rfl

/-- Where a look past blanks and a mark sees nothing, what stands first is one of these. -/
theorem head?_of_peekPast_eq_none {cs : List Char} (h : peekPast false cs = none) :
    cs.head? ≠ some ']' ∧ cs.head? ≠ some '-' := by
  cases cs with
  | nil => simp
  | cons c cs =>
    have hskipped : ∀ d, Text.isBlankChar d = false → d ≠ '#' → c ≠ d := by
      rintro d hblank hmark rfl
      simp [peekPast, hblank, hmark] at h
    simp [hskipped ']' (by decide) (by decide), hskipped '-' (by decide) (by decide)]

/-- Whether a hyphen is followed by one of the characters that keep it from making a range does not depend on text after the
class. -/
theorem peek?_append {fs : Flags} {cs ys : List Char} (hys : Closes ys) {d : Char} (hd : d = ']' ∨ d = '-') :
    peek? fs (cs ++ ys) = some d ↔ peek? fs cs = some d := by
  unfold peek?
  have hparen : ')' ≠ d := by rcases hd with rfl | rfl <;> decide
  cases fs.verbose with
  | false =>
    obtain ⟨t, rfl⟩ := hys.first
    cases cs <;> simp [hparen]
  | true =>
    simp only [Bool.not_true, Bool.false_eq_true, if_false, peekPast_append cs hys]
    cases hpeek : peekPast false cs with
    | some c => simp
    | none =>
      have hhead := head?_of_peekPast_eq_none hpeek
      have hne : cs.head? ≠ some d := by rcases hd with rfl | rfl <;> simp [hhead]
      simp [hparen, hne]

theorem persists_classRange? {fs : Flags} {cs rest : List Char} {s : CharSet} (h : classRange? fs cs = some (s, rest)) :
    Persists (classRange? fs) cs s rest := by
  simp only [classRange?, Option.bind_eq_bind, Option.bind_eq_some_iff] at h
  obtain ⟨⟨first, rest'⟩, hfirst, h⟩ := h
  have hne : skip fs rest' ≠ [] := by
    intro hnil
    simp [hnil] at h
  have hkept : Kept (classItem? fs) cs first rest' := by
    refine (persists_classItem? hfirst).kept fun hnil => hne ?_
    rw [hnil]
    unfold skip
    split <;> rfl
  split at h
  · exact absurd ‹_› hne
  · rename_i r hskip
    by_cases hpeek : peek? fs r = some ']' ∨ peek? fs r = some '-'
    · rw [if_pos hpeek] at h
      simp only [Option.bind_eq_some_iff] at h
      obtain ⟨set, hset, heq⟩ := h
      cases heq
      refine Or.inl fun ys hys => ?_
      have hpeek' : peek? fs (r ++ ys) = some ']' ∨ peek? fs (r ++ ys) = some '-' := by
        rwa [peek?_append hys (Or.inl rfl), peek?_append hys (Or.inr rfl)]
      simp [classRange?, hkept ys hys, skip_append_of_cons hskip hys, hpeek', hset]
    · rw [if_neg hpeek] at h
      simp only [Option.bind_eq_some_iff] at h
      obtain ⟨⟨second, rest''⟩, hsecond, h⟩ := h
      have hpeek' : ∀ ys, Closes ys → ¬(peek? fs (r ++ ys) = some ']' ∨ peek? fs (r ++ ys) = some '-') := by
        intro ys hys
        rwa [peek?_append hys (Or.inl rfl), peek?_append hys (Or.inr rfl)]
      have hskip' : ∀ ys, Closes ys → skip fs (r ++ ys) = skip fs r ++ ys := by
        intro ys hys
        cases hs : skip fs r with
        | nil =>
          rw [hs] at hsecond
          cases hsecond
        | cons d t => exact skip_append_of_cons hs hys
      have hend : skip fs r <:+ cs :=
        (skip_suffix fs r).trans ((suffix_of_skip_eq_cons hskip).trans (classItem?_suffix hfirst))
      split at h
      · rename_i a _ b _ hb
        obtain rfl : second = _ := hb
        simp only [Option.ite_none_right_eq_some, Option.bind_eq_some_iff] at h
        obtain ⟨hle, low, hlow, high, hhigh, heq⟩ := h
        cases heq
        rcases persists_classItem? hsecond with hkept' | ⟨hnil, hopens, hswallowed⟩
        · refine Or.inl fun ys hys => ?_
          simp [classRange?, hkept ys hys, skip_append_of_cons hskip hys, hpeek' ys hys, hskip' ys hys, hkept' ys hys,
            hle, hlow, hhigh]
        · refine Or.inr ⟨hnil, hopens.of_suffix hend, fun ys hys => ?_⟩
          simp [classRange?, hkept ys hys, skip_append_of_cons hskip hys, hpeek' ys hys, hskip' ys hys,
            hswallowed ys hys, hle, hlow, hhigh]
      · cases h
  · rename_i hhyphen
    simp only [Option.bind_eq_some_iff] at h
    obtain ⟨set, hset, heq⟩ := h
    cases heq
    obtain ⟨c, t, hskip⟩ := List.exists_cons_of_ne_nil hne
    have hc : c ≠ '-' := fun he => hhyphen t (he ▸ hskip)
    refine Or.inl fun ys hys => ?_
    simp [classRange?, hkept ys hys, skip_append_of_cons hskip hys, hc, hset, hskip]

/-! ## Brackets -/

theorem dropWhile_ne_eq_nil {d : Char} {cs : List Char} (h : d ∉ cs) : cs.dropWhile (· != d) = [] := by
  induction cs with
  | nil => rfl
  | cons c cs ih =>
    simp only [List.mem_cons, not_or] at h
    rw [List.dropWhile_cons_of_pos (by simpa using Ne.symm h.1), ih h.2]

theorem className?_append (negated : Bool) (cs : List Char) {ys : List Char} (hys : Closes ys) :
    className? negated (cs ++ ys) = (className? negated cs).map fun x => (x.1, x.2.1, x.2.2 ++ ys) := by
  unfold className?
  cases hdrop : cs.dropWhile (· != ':') with
  | nil =>
    have hall : (cs ++ ys).dropWhile (· != ':') = [] := by
      rw [List.dropWhile_append, hdrop]
      exact dropWhile_ne_eq_nil hys.colon
    rw [hall]
    rfl
  | cons c rest =>
    obtain ⟨htake, hdrop'⟩ := takeWhile_dropWhile_append hdrop ys
    rw [hdrop', htake]
    cases rest with
    | nil =>
      obtain ⟨t, rfl⟩ := hys.first
      by_cases hc : c = ':' <;> simp [hc]
    | cons d rest =>
      by_cases hc : c = ':'
      · by_cases hd : d = ']'
        · subst hc hd
          simp only [List.cons_append, Option.map_map]
          rfl
        · simp [hc, hd]
      · simp [hc]

/-- A named class ends with a colon and a bracket, which do not come from text that closes a group. -/
theorem asciiClassAfter?_append (cs : List Char) {ys : List Char} (hys : Closes ys) :
    asciiClassAfter? (cs ++ ys) = (asciiClassAfter? cs).map fun x => (x.1, x.2.1, x.2.2 ++ ys) := by
  rcases cs with _ | ⟨c, cs⟩
  · obtain ⟨t, rfl⟩ := hys.first
    rfl
  by_cases hc : c = ':'
  · subst hc
    rcases cs with _ | ⟨d, r⟩
    · have hempty := className?_append false [] hys
      obtain ⟨t, rfl⟩ := hys.first
      exact hempty
    · by_cases hd : d = '^'
      · subst hd
        exact className?_append true r hys
      · simpa [asciiClassAfter?, hd] using className?_append false (d :: r) hys
  · simp [asciiClassAfter?, hc]

/-- Hyphens at the start of a class end before the same character when more follows. -/
theorem leadingHyphens_append {fs : Flags} {n m : Nat} {l l' : ClassList} {cs r : List Char} {c : Char}
    (h : leadingHyphens fs n l cs = (l', c :: r)) (hn : cs.length ≤ n) {ys : List Char} (hys : Closes ys) (hm : n ≤ m) :
    leadingHyphens fs m l (cs ++ ys) = (l', c :: (r ++ ys)) := by
  induction n generalizing m l cs with
  | zero =>
    rw [List.eq_nil_of_length_eq_zero (Nat.le_zero.1 hn)] at h
    cases h
  | succ n ih =>
    obtain ⟨m, rfl⟩ : ∃ k, m = k + 1 := ⟨m - 1, by omega⟩
    cases cs with
    | nil => cases h
    | cons d cs =>
      by_cases hd : d = '-'
      · subst hd
        simp only [leadingHyphens] at h
        have hlength : (skip fs cs).length ≤ n := Nat.le_trans (length_skip_le fs cs) (Nat.le_of_succ_le_succ hn)
        cases hs : skip fs cs with
        | nil =>
          rw [hs] at h
          cases n <;> cases h
        | cons x xs =>
          have hskip : skip fs (cs ++ ys) = skip fs cs ++ ys := by
            rw [skip_append_of_cons hs hys, hs, List.cons_append]
          simp only [List.cons_append, leadingHyphens, hskip]
          exact ih h hlength (Nat.le_of_succ_le_succ hm)
      · simp [leadingHyphens, hd] at h ⊢
        simp [h]

theorem classStart?_append {fs : Flags} {negated negated' : Bool} {cs rest : List Char} {l : ClassList}
    (h : classStart? fs negated cs = some (negated', l, rest)) {ys : List Char} (hys : Closes ys) :
    classStart? fs negated (cs ++ ys) = some (negated', l, rest ++ ys) := by
  unfold classStart? at h
  split at h
  · cases h
  · rename_i l' r hhyphens
    have hhyphens' := leadingHyphens_append hhyphens (Nat.le_refl _) hys (m := (cs ++ ys).length) (by simp)
    by_cases hcount : l'.count = 0
    · rw [if_pos hcount] at h
      split at h
      · cases h
      · rename_i hne
        cases h
        obtain ⟨c, t, hs⟩ := List.exists_cons_of_ne_nil hne
        rw [classStart?, hhyphens']
        simp [hcount, skip_append_of_cons hs hys, hs]
    · rw [if_neg hcount] at h
      cases h
      rw [classStart?, hhyphens']
      simp [hcount]
  · rename_i l' r hnil hbracket hhyphens
    cases h
    obtain ⟨c, t, rfl⟩ := List.exists_cons_of_ne_nil hnil
    have hc : c ≠ ']' := fun he => hbracket t (he ▸ rfl)
    have hhyphens' := leadingHyphens_append hhyphens (Nat.le_refl _) hys (m := (cs ++ ys).length) (by simp)
    rw [classStart?, hhyphens']
    simp [hc]

theorem classOpening?_append {fs : Flags} {cs rest : List Char} {negated : Bool} {l : ClassList}
    (h : classOpening? fs cs = some (negated, l, rest)) {ys : List Char} (hys : Closes ys) :
    classOpening? fs (cs ++ ys) = some (negated, l, rest ++ ys) := by
  unfold classOpening? at h
  split at h
  · rename_i r hs
    cases ht : skip fs r with
    | nil =>
      rw [ht] at h
      cases h
    | cons d u =>
      rw [ht] at h
      have hstart := classStart?_append h hys
      rw [List.cons_append] at hstart
      simp [classOpening?, skip_append_of_cons hs hys, skip_append_of_cons ht hys, hstart]
  · rename_i hcaret
    cases hs : skip fs cs with
    | nil =>
      rw [hs] at h
      cases h
    | cons c t =>
      have hc : c ≠ '^' := fun he => hcaret t (he ▸ hs)
      rw [hs] at h
      have hstart := classStart?_append h hys
      rw [List.cons_append] at hstart
      simp [classOpening?, skip_append_of_cons hs hys, hc, hstart]

theorem skip_nil (fs : Flags) : skip fs [] = [] := by
  unfold skip
  split <;> rfl

/-- A character other than a closing parenthesis was there before text that closes a group. -/
theorem exists_of_append_eq_cons {t ys r : List Char} {d : Char} (hys : Closes ys) (hd : d ≠ ')') (h : t ++ ys = d :: r) :
    ∃ u, t = d :: u := by
  cases t with
  | nil =>
    obtain ⟨u, rfl⟩ := hys.first
    exact absurd (List.cons.inj h).1.symm hd
  | cons e u => exact ⟨u, by rw [(List.cons.inj h).1]⟩

/-! ## Whole classes -/

theorem kept_classBracket? {fs : Flags} {frames : List ClassFrame} {l : ClassList} {cs rest : List Char} {x : ClassProgress}
    (h : classBracket? fs frames l cs = some (x, rest)) : Kept (classBracket? fs frames l) cs x rest := by
  intro ys hys
  have hnamed : (if frames.isEmpty then none else asciiClassAfter? (cs ++ ys)) =
      (if frames.isEmpty then none else asciiClassAfter? cs).map fun y => (y.1, y.2.1, y.2.2 ++ ys) := by
    split
    · rfl
    · exact asciiClassAfter?_append cs hys
  unfold classBracket? at h ⊢
  rw [hnamed]
  cases hname : (if frames.isEmpty then none else asciiClassAfter? cs) with
  | some named =>
    simp only [hname] at h
    obtain ⟨set, hset, heq⟩ := Option.map_eq_some_iff.1 h
    cases heq
    simp only [Option.map_some, hset]
  | none =>
    simp only [hname] at h
    obtain ⟨⟨negated, inner, r⟩, hopening, heq⟩ := Option.map_eq_some_iff.1 h
    cases heq
    simp only [Option.map_none, classOpening?_append hopening hys, Option.map_some]

/-- What is read of a class in one step is read again, and the text is left, if something is left or the class is at its end. -/
theorem kept_classStep? {fs : Flags} {frames : List ClassFrame} {l : ClassList} {cs rest : List Char} {x : ClassProgress}
    (h : classStep? fs frames l cs = some (x, rest)) (hrest : rest = [] → ∃ n, x = .closed n) :
    Kept (classStep? fs frames l) cs x rest := by
  intro ys hys
  unfold classStep? at h
  split at h
  case h_1 => cases h
  case h_2 hs =>
    simp only [classStep?, skip_append_of_cons hs hys]
    exact kept_classBracket? h ys hys
  case h_3 hs =>
    obtain ⟨y, hy, heq⟩ := Option.map_eq_some_iff.1 h
    cases heq
    simp only [classStep?, skip_append_of_cons hs hys, hy, Option.map_some]
  case h_4 hs | h_5 hs | h_6 hs =>
    cases h
    simp only [classStep?, skip_append_of_cons hs hys, List.cons_append]
  case h_7 hnil hbracket hclosing hinter hdiff hsymm =>
    obtain ⟨⟨set, r⟩, hrange, heq⟩ := Option.map_eq_some_iff.1 h
    cases heq
    have hne : r ≠ [] := by
      intro hempty
      obtain ⟨n, hn⟩ := hrest hempty
      cases hn
    obtain ⟨c, t, hs⟩ := List.exists_cons_of_ne_nil hnil
    have hrange' := (persists_classRange? hrange).kept hne ys hys
    have hs' := skip_append_of_cons hs hys
    have hopens : ∀ d, d = '&' ∨ d = '-' ∨ d = '~' → ∀ u, c :: (t ++ ys) = d :: d :: u → ∃ v, skip fs cs = d :: d :: v := by
      intro d hd u heq
      obtain ⟨rfl, hnext⟩ := List.cons.inj heq
      have hparen : c ≠ ')' := by
        rintro rfl
        simp at hd
      obtain ⟨v, rfl⟩ := exists_of_append_eq_cons hys hparen hnext
      exact ⟨v, hs⟩
    rw [classStep?, hs']
    split
    · rename_i heq
      cases heq
    · rename_i heq
      exact absurd (hs.trans (by rw [(List.cons.inj heq).1])) (hbracket t)
    · rename_i heq
      exact absurd (hs.trans (by rw [(List.cons.inj heq).1])) (hclosing t)
    · rename_i heq
      obtain ⟨v, hv⟩ := hopens '&' (by simp) _ heq
      exact absurd hv (hinter v)
    · rename_i heq
      obtain ⟨v, hv⟩ := hopens '-' (by simp) _ heq
      exact absurd hv (hdiff v)
    · rename_i heq
      obtain ⟨v, hv⟩ := hopens '~' (by simp) _ heq
      exact absurd hv (hsymm v)
    · rw [hs, List.cons_append] at hrange'
      rw [hrange', Option.map_some]

theorem classWithin?_nil (fs : Flags) (n : Nat) (frames : List ClassFrame) (l : ClassList) :
    classWithin? fs n frames l [] = none := by
  cases n with
  | zero => rfl
  | succ n =>
    have hstep : classStep? fs frames l [] = none := by
      simp only [classStep?, skip_nil]
    rw [classWithin?, hstep]

/-- A class that is read to its closing bracket leaves all the text after it. -/
theorem classWithin?_append {fs : Flags} {n m : Nat} {frames : List ClassFrame} {l : ClassList} {cs rest : List Char} {x : Nested}
    (h : classWithin? fs n frames l cs = some (x, rest)) {ys : List Char} (hys : Closes ys) (hm : n ≤ m) :
    classWithin? fs m frames l (cs ++ ys) = some (x, rest ++ ys) := by
  induction n generalizing m frames l cs with
  | zero => cases h
  | succ n ih =>
    obtain ⟨m, rfl⟩ : ∃ k, m = k + 1 := ⟨m - 1, by omega⟩
    rw [classWithin?] at h ⊢
    split at h
    · cases h
    · rename_i hstep
      cases h
      rw [kept_classStep? hstep (fun _ => ⟨x, rfl⟩) ys hys]
    · rename_i frames' l' r hstep
      have hne : r ≠ [] := by
        rintro rfl
        rw [classWithin?_nil] at h
        cases h
      rw [kept_classStep? hstep (fun hnil => absurd hnil hne) ys hys]
      exact ih h (Nat.le_of_succ_le_succ hm)

theorem kept_class? {fs : Flags} {cs rest : List Char} {x : Nested} (h : class? fs cs = some (x, rest)) :
    Kept (class? fs) cs x rest :=
  fun ys hys => classWithin?_append h hys (by simp)

end Webform.Pattern
