import Webform.Pattern.Reader

/-!
# What readers of patterns leave

Each reader takes its piece from the start of the text it is given and leaves an end of that text.
-/

namespace Webform.Pattern

/-! ## Blanks and runs of characters -/

theorem skipVerbose_suffix (inComment : Bool) (cs : List Char) : skipVerbose inComment cs <:+ cs := by
  induction cs generalizing inComment with
  | nil => exact List.suffix_refl []
  | cons c cs ih =>
    rw [skipVerbose]
    split
    · exact (ih _).trans (List.suffix_cons c cs)
    · split
      · exact (ih _).trans (List.suffix_cons c cs)
      · split
        · exact (ih _).trans (List.suffix_cons c cs)
        · exact List.suffix_refl _

theorem skip_suffix (fs : Flags) (cs : List Char) : skip fs cs <:+ cs := by
  unfold skip
  split
  · exact skipVerbose_suffix false cs
  · exact List.suffix_refl cs

theorem suffix_of_skip_eq_cons {fs : Flags} {cs r : List Char} {c : Char} (h : skip fs cs = c :: r) : r <:+ cs := by
  have hskip := skip_suffix fs cs
  rw [h] at hskip
  exact (List.suffix_cons c r).trans hskip

theorem takeSkipping_suffix (fs : Flags) (p : Char → Bool) (n : Nat) (cs : List Char) : (takeSkipping fs p n cs).2 <:+ cs := by
  induction n generalizing cs with
  | zero => exact List.suffix_refl cs
  | succ n ih =>
    cases cs with
    | nil => exact List.suffix_refl []
    | cons c cs =>
      rw [takeSkipping]
      split
      · exact ((ih _).trans (skip_suffix fs cs)).trans (List.suffix_cons c cs)
      · exact List.suffix_refl _

theorem takeAll_suffix (fs : Flags) (p : Char → Bool) (cs : List Char) : (takeAll fs p cs).2 <:+ cs :=
  takeSkipping_suffix fs p cs.length cs

/-- What is left after a run of characters in braces, the opening brace standing first after blanks. -/
theorem suffix_of_braces {fs : Flags} {p : Char → Bool} {cs r rest : List Char} {c d : Char} (h : skip fs cs = c :: r)
    (htake : (takeAll fs p (skip fs r)).2 = d :: rest) : rest <:+ cs := by
  have htaken := takeAll_suffix fs p (skip fs r)
  rw [htake] at htaken
  exact ((List.suffix_cons d rest).trans htaken).trans ((skip_suffix fs r).trans (suffix_of_skip_eq_cons h))

/-! ## Escapes -/

variable {fs : Flags} {cs rest : List Char}

theorem takeHex?_suffix {n : Nat} {taken : List Char} (h : takeHex? fs n cs = some (taken, rest)) : rest <:+ cs := by
  induction n generalizing cs taken with
  | zero =>
    cases h
    exact List.suffix_refl _
  | succ n ih =>
    cases cs with
    | nil => cases h
    | cons c cs =>
      simp only [takeHex?, Option.bind_eq_bind, Option.bind_eq_some_iff] at h
      obtain ⟨_, -, ⟨taken', rest'⟩, hinner, heq⟩ := h
      cases heq
      exact ((ih hinner).trans (skip_suffix fs cs)).trans (List.suffix_cons c cs)

theorem hexEscape?_suffix {letter : Char} {x : Primitive} (h : hexEscape? fs letter cs = some (x, rest)) : rest <:+ cs := by
  unfold hexEscape? at h
  split at h
  · cases h
  · rename_i r hbrace
    simp only [Option.bind_eq_bind, Option.bind_eq_some_iff] at h
    obtain ⟨n, -, h⟩ := h
    split at h
    · rename_i rest' htake
      simp only [Option.ite_none_left_eq_some, Option.bind_eq_some_iff] at h
      obtain ⟨-, c, -, heq⟩ := h
      cases heq
      exact (skip_suffix fs rest').trans (suffix_of_braces hbrace htake)
    · cases h
  · simp only [Option.bind_eq_bind, Option.bind_eq_some_iff] at h
    obtain ⟨⟨taken, rest'⟩, htake, n, -, d, -, heq⟩ := h
    cases heq
    exact (takeHex?_suffix htake).trans (skip_suffix fs cs)

theorem propertyEscape?_suffix {negated : Bool} {x : Primitive} (h : propertyEscape? fs negated cs = some (x, rest)) :
    rest <:+ cs := by
  simp only [propertyEscape?, Option.bind_eq_bind] at h
  split at h
  · cases h
  · cases h
  · rename_i r hbrace
    split at h
    · rename_i d rest' htake
      simp only [Option.bind_eq_some_iff, Option.map_eq_some_iff] at h
      obtain ⟨_, ⟨p, -, rfl⟩, h⟩ := h
      simp only [Option.ite_none_left_eq_some, Option.bind_eq_some_iff] at h
      obtain ⟨-, s, -, heq⟩ := h
      cases heq
      exact suffix_of_braces hbrace htake
    · cases h
  · rename_i c r _ _ hskip
    simp only [Option.bind_eq_some_iff, Option.map_eq_some_iff] at h
    obtain ⟨_, ⟨p, -, rfl⟩, h⟩ := h
    simp only [Option.ite_none_left_eq_some, Option.bind_eq_some_iff] at h
    obtain ⟨-, s, -, heq⟩ := h
    cases heq
    exact (skip_suffix fs r).trans (suffix_of_skip_eq_cons hskip)

theorem boundaryName?_suffix {b : Boundary} (h : boundaryName? fs cs = some (b, rest)) : rest <:+ cs := by
  unfold boundaryName? at h
  split at h
  · rename_i r
    split at h
    · cases h
    · rename_i c r' hskip
      by_cases hchar : isBoundaryChar c = true
      · simp only [hchar, Bool.not_true, Bool.false_eq_true, if_false] at h
        split at h
        · rename_i rest' htake
          have htaken := takeAll_suffix fs isBoundaryChar (c :: r')
          rw [htake, ← hskip] at htaken
          have hbrace : skip fs r <:+ '{' :: r := (skip_suffix fs r).trans (List.suffix_cons _ r)
          have hrest : rest' <:+ '{' :: r := ((List.suffix_cons _ rest').trans htaken).trans hbrace
          split at h
          case h_5 => cases h
          all_goals
            cases h
            exact hrest
        · cases h
      · simp only [hchar] at h
        cases h
        exact List.suffix_refl _
  · cases h
    exact List.suffix_refl _

/-- What an escape may be: a number, a property or a boundary, which take text after the letter, or a letter that is all of it. -/
theorem escape?_cases {c : Char} {x : Primitive} (h : escape? fs (c :: cs) = some (x, rest)) :
    ((∀ t, escape? fs (c :: t) = hexEscape? fs c t) ∧ hexEscape? fs c cs = some (x, rest)) ∨
      ((∀ t, escape? fs (c :: t) = propertyEscape? fs (c == 'P') t) ∧ propertyEscape? fs (c == 'P') cs = some (x, rest)) ∨
      ((∀ t, escape? fs (c :: t) = (boundaryName? fs t).map fun p => (.look (fs.boundary p.1), p.2)) ∧
        ∃ b, boundaryName? fs cs = some (b, rest) ∧ x = .look (fs.boundary b)) ∨
      (rest = cs ∧ ∀ t, escape? fs (c :: t) = some (x, t)) := by
  by_cases hhex : c = 'x' ∨ c = 'u' ∨ c = 'U'
  · have hread : ∀ t, escape? fs (c :: t) = hexEscape? fs c t := by
      rcases hhex with rfl | rfl | rfl <;> exact fun _ => rfl
    exact Or.inl ⟨hread, hread cs ▸ h⟩
  by_cases hproperty : c = 'p' ∨ c = 'P'
  · have hread : ∀ t, escape? fs (c :: t) = propertyEscape? fs (c == 'P') t := by
      rcases hproperty with rfl | rfl <;> exact fun _ => rfl
    exact Or.inr (Or.inl ⟨hread, hread cs ▸ h⟩)
  by_cases hboundary : c = 'b'
  · have hread : ∀ t, escape? fs (c :: t) = (boundaryName? fs t).map fun p => (.look (fs.boundary p.1), p.2) := by
      subst hboundary
      exact fun _ => rfl
    rw [hread, Option.map_eq_some_iff] at h
    obtain ⟨⟨b, r⟩, hb, heq⟩ := h
    cases heq
    exact Or.inr (Or.inr (Or.inl ⟨hread, b, hb, rfl⟩))
  simp only [escape?, if_neg hhex, if_neg hproperty, if_neg hboundary] at h ⊢
  refine Or.inr (Or.inr (Or.inr ?_))
  repeat' split at h
  all_goals simp_all
  all_goals
    obtain ⟨d, hd, rfl, rfl⟩ := h
    simp [hd]

theorem escape?_suffix {x : Primitive} (h : escape? fs cs = some (x, rest)) : rest <:+ cs := by
  cases cs with
  | nil => cases h
  | cons c cs =>
    refine List.IsSuffix.trans ?_ (List.suffix_cons c cs)
    rcases escape?_cases h with ⟨-, hhex⟩ | ⟨-, hproperty⟩ | ⟨-, b, hb, -⟩ | ⟨rfl, -⟩
    · exact hexEscape?_suffix hhex
    · exact propertyEscape?_suffix hproperty
    · exact boundaryName?_suffix hb
    · exact List.suffix_refl _

/-! ## Numbers of repetitions -/

theorem decimal?_suffix (fs : Flags) (cs : List Char) : (decimal? fs cs).2 <:+ cs :=
  ((takeAll_suffix fs Text.isBlankChar _).trans (takeAll_suffix fs Char.isDigit _)).trans (List.dropWhile_suffix _)

theorem bounds?_suffix {x : Nat × Option Nat} (h : bounds? fs cs = some (x, rest)) : rest <:+ cs := by
  simp only [bounds?, Option.bind_eq_bind, Option.bind_eq_some_iff] at h
  obtain ⟨low, -, h⟩ := h
  have hlow := (decimal?_suffix fs (skip fs cs)).trans (skip_suffix fs cs)
  split at h
  · rename_i r hr
    rw [hr] at hlow
    cases h
    exact (List.suffix_cons _ _).trans hlow
  · rename_i r hr
    rw [hr] at hlow
    have hcomma := (List.suffix_cons _ r).trans hlow
    split at h
    · rename_i r' hskip
      cases h
      exact (suffix_of_skip_eq_cons hskip).trans hcomma
    · simp only [Option.bind_eq_some_iff] at h
      obtain ⟨high, -, h⟩ := h
      split at h
      · rename_i r' hr'
        simp only [Option.ite_none_right_eq_some] at h
        obtain ⟨-, heq⟩ := h
        cases heq
        have hhigh := (decimal?_suffix fs (skip fs r)).trans (skip_suffix fs r)
        rw [hr'] at hhigh
        exact ((List.suffix_cons _ _).trans hhigh).trans hcomma
      · cases h
  · cases h

/-! ## Groups -/

theorem flagsUpTo?_suffix {seen : List Flag} {negated : Bool} {last : Char} {x : Flags × Char × Bool}
    (h : flagsUpTo? fs seen negated last cs = some (x, rest)) : rest <:+ cs := by
  induction cs generalizing fs seen negated last with
  | nil => cases h
  | cons c cs ih =>
    refine List.IsSuffix.trans ?_ (List.suffix_cons c cs)
    rw [flagsUpTo?] at h
    split at h
    · split at h
      · cases h
      · cases h
        exact List.suffix_refl _
    · split at h
      · split at h
        · cases h
        · exact ih h
      · split at h
        · cases h
        · split at h
          · cases h
          · exact ih h

theorem groupName?_suffix {name : List Char} (h : groupName? cs = some (name, rest)) : rest <:+ cs := by
  simp only [groupName?] at h
  split at h
  · rename_i d r c more hdrop _
    simp only [Option.ite_none_right_eq_some] at h
    obtain ⟨-, heq⟩ := h
    cases heq
    have hend : d :: rest <:+ cs := hdrop ▸ List.dropWhile_suffix _
    exact (List.suffix_cons d rest).trans hend
  · cases h

theorem opening?_suffix {o : Opening} (h : opening? fs cs = some (o, rest)) : rest <:+ cs := by
  unfold opening? at h
  refine List.IsSuffix.trans ?_ (skip_suffix fs cs)
  split at h
  case h_1 | h_2 | h_3 | h_4 => cases h
  case h_5 r hskip =>
    obtain ⟨⟨name, r'⟩, hname, heq⟩ := Option.map_eq_some_iff.1 h
    cases heq
    rw [hskip]
    exact (groupName?_suffix hname).trans (List.suffix_append ['?', 'P', '<'] r)
  case h_6 r _ _ hskip =>
    obtain ⟨⟨name, r'⟩, hname, heq⟩ := Option.map_eq_some_iff.1 h
    cases heq
    rw [hskip]
    exact (groupName?_suffix hname).trans (List.suffix_append ['?', '<'] r)
  case h_7 r _ _ _ _ _ _ hskip =>
    simp only [Option.bind_eq_bind, Option.bind_eq_some_iff] at h
    obtain ⟨⟨⟨fs', last, some_⟩, r'⟩, hflags, h⟩ := h
    have hrest : r' = rest := by
      split at h
      · cases h
        rfl
      · simp only [Option.ite_none_right_eq_some] at h
        obtain ⟨-, heq⟩ := h
        cases heq
        rfl
    subst hrest
    rw [hskip]
    exact (flagsUpTo?_suffix hflags).trans (List.suffix_cons _ r)
  case h_8 =>
    cases h
    exact List.suffix_refl _

/-! ## Classes -/

theorem classItem?_suffix {x : Primitive} (h : classItem? fs cs = some (x, rest)) : rest <:+ cs := by
  unfold classItem? at h
  split at h
  · cases h
  · exact (escape?_suffix h).trans (List.suffix_cons _ _)
  · cases h
    exact List.suffix_cons _ _

theorem classRange?_suffix {s : Unicode.CharSet} (h : classRange? fs cs = some (s, rest)) : rest <:+ cs := by
  simp only [classRange?, Option.bind_eq_bind, Option.bind_eq_some_iff] at h
  obtain ⟨⟨first, rest'⟩, hfirst, h⟩ := h
  refine List.IsSuffix.trans ?_ ((skip_suffix fs rest').trans (classItem?_suffix hfirst))
  split at h
  · cases h
  · rename_i r hskip
    rw [hskip]
    split at h
    · simp only [Option.bind_eq_some_iff] at h
      obtain ⟨set, -, heq⟩ := h
      cases heq
      exact List.suffix_refl _
    · simp only [Option.bind_eq_some_iff] at h
      obtain ⟨⟨second, rest''⟩, hsecond, h⟩ := h
      split at h
      · simp only [Option.ite_none_right_eq_some, Option.bind_eq_some_iff] at h
        obtain ⟨-, low, -, high, -, heq⟩ := h
        cases heq
        exact ((classItem?_suffix hsecond).trans (skip_suffix fs r)).trans (List.suffix_cons _ r)
      · cases h
  · simp only [Option.bind_eq_some_iff] at h
    obtain ⟨set, -, heq⟩ := h
    cases heq
    exact List.suffix_refl _

theorem asciiClassAfter?_suffix {s : Unicode.CharSet} {negated : Bool} (h : asciiClassAfter? cs = some (s, negated, rest)) :
    rest <:+ cs := by
  have hname : ∀ {negated' : Bool} {r : List Char}, className? negated' r = some (s, negated, rest) → rest <:+ r := by
    intro negated' r h
    unfold className? at h
    split at h
    · rename_i rest' hdrop
      obtain ⟨_, -, heq⟩ := Option.map_eq_some_iff.1 h
      cases heq
      have hend : ':' :: ']' :: rest <:+ r := hdrop ▸ List.dropWhile_suffix _
      exact (List.suffix_append [':', ']'] rest).trans hend
    · cases h
  unfold asciiClassAfter? at h
  split at h
  · exact (hname h).trans (List.suffix_append [':', '^'] _)
  · exact (hname h).trans (List.suffix_cons _ _)
  · cases h

theorem leadingHyphens_suffix (fs : Flags) (n : Nat) (l : ClassList) (cs : List Char) : (leadingHyphens fs n l cs).2 <:+ cs := by
  induction n generalizing l cs with
  | zero => exact List.suffix_refl cs
  | succ n ih =>
    unfold leadingHyphens
    split
    · rename_i r
      exact ((ih _ _).trans (skip_suffix fs r)).trans (List.suffix_cons _ r)
    · exact List.suffix_refl _

theorem classStart?_suffix {negated negated' : Bool} {l : ClassList} (h : classStart? fs negated cs = some (negated', l, rest)) :
    rest <:+ cs := by
  have hhyphens := leadingHyphens_suffix fs cs.length {} cs
  unfold classStart? at h
  split at h
  · cases h
  · rename_i l' r hstart
    rw [hstart] at hhyphens
    split at h
    · split at h
      · cases h
      · cases h
        exact (skip_suffix fs r).trans ((List.suffix_cons _ r).trans hhyphens)
    · cases h
      exact hhyphens
  · rename_i hstart
    rw [hstart] at hhyphens
    cases h
    exact hhyphens

theorem classOpening?_suffix {negated : Bool} {l : ClassList} (h : classOpening? fs cs = some (negated, l, rest)) :
    rest <:+ cs := by
  unfold classOpening? at h
  split at h
  · rename_i r hskip
    exact ((classStart?_suffix h).trans (skip_suffix fs r)).trans (suffix_of_skip_eq_cons hskip)
  · exact (classStart?_suffix h).trans (skip_suffix fs cs)

theorem classBracket?_suffix {frames : List ClassFrame} {l : ClassList} {x : ClassProgress}
    (h : classBracket? fs frames l cs = some (x, rest)) : rest <:+ cs := by
  unfold classBracket? at h
  split at h
  · rename_i hname
    obtain ⟨set, -, heq⟩ := Option.map_eq_some_iff.1 h
    cases heq
    simp only [Option.ite_none_left_eq_some] at hname
    exact asciiClassAfter?_suffix hname.2
  · obtain ⟨⟨negated, inner, r⟩, hopening, heq⟩ := Option.map_eq_some_iff.1 h
    cases heq
    exact classOpening?_suffix hopening

theorem classStep?_suffix {frames : List ClassFrame} {l : ClassList} {x : ClassProgress}
    (h : classStep? fs frames l cs = some (x, rest)) : rest <:+ cs := by
  unfold classStep? at h
  split at h
  case h_1 => cases h
  case h_2 hs => exact (classBracket?_suffix h).trans (suffix_of_skip_eq_cons hs)
  case h_3 hs =>
    obtain ⟨y, -, heq⟩ := Option.map_eq_some_iff.1 h
    cases heq
    exact suffix_of_skip_eq_cons hs
  case h_4 hs | h_5 hs | h_6 hs =>
    cases h
    exact (List.suffix_cons _ _).trans (suffix_of_skip_eq_cons hs)
  case h_7 =>
    obtain ⟨⟨set, r⟩, hrange, heq⟩ := Option.map_eq_some_iff.1 h
    cases heq
    exact (classRange?_suffix hrange).trans (skip_suffix fs cs)

theorem classWithin?_suffix {n : Nat} {frames : List ClassFrame} {l : ClassList} {x : Nested}
    (h : classWithin? fs n frames l cs = some (x, rest)) : rest <:+ cs := by
  induction n generalizing frames l cs with
  | zero => cases h
  | succ n ih =>
    rw [classWithin?] at h
    split at h
    · cases h
    · rename_i hstep
      cases h
      exact classStep?_suffix hstep
    · rename_i hstep
      exact (ih h).trans (classStep?_suffix hstep)

theorem class?_suffix {x : Nested} (h : class? fs ('[' :: cs) = some (x, rest)) : rest <:+ cs := by
  have hskip : skip fs ('[' :: cs) = '[' :: cs := by
    unfold skip
    split <;> rfl
  have hstep : classStep? fs [] {} ('[' :: cs) = classBracket? fs [] {} cs := by
    simp only [classStep?, hskip]
  rw [class?, classWithin?, hstep] at h
  split at h
  · cases h
  · rename_i hbracket
    cases h
    exact classBracket?_suffix hbracket
  · rename_i hbracket
    exact (classWithin?_suffix h).trans (classBracket?_suffix hbracket)

/-! ## Pieces and operators -/

theorem skipLazy_suffix (cs : List Char) : skipLazy cs <:+ cs := by
  unfold skipLazy
  split
  · exact List.suffix_cons _ _
  · exact List.suffix_refl _

theorem Progress.open?_suffix {p p' : Progress} (h : p.open? cs = some (p', rest)) : rest <:+ cs := by
  simp only [open?, Option.bind_eq_bind, Option.bind_eq_some_iff] at h
  obtain ⟨⟨o, r⟩, ho, h⟩ := h
  refine List.IsSuffix.trans ?_ (opening?_suffix ho)
  split at h
  · cases h
    exact List.suffix_refl _
  · simp only [Option.ite_none_left_eq_some] at h
    obtain ⟨-, heq⟩ := h
    cases heq
    exact List.suffix_refl _
  · cases h
    exact List.suffix_refl _
  · cases h
    exact List.suffix_refl _

theorem Progress.step?_suffix {p p' : Progress} {c : Char} (h : p.step? c cs = some (p', rest)) : rest <:+ cs := by
  unfold step? at h
  split at h
  case h_1 => exact open?_suffix h
  case h_2 =>
    obtain ⟨q, -, heq⟩ := Option.map_eq_some_iff.1 h
    cases heq
    exact List.suffix_refl _
  case h_4 =>
    simp only [Option.bind_eq_bind, Option.bind_eq_some_iff] at h
    obtain ⟨⟨n, r⟩, hclass, heq⟩ := h
    cases heq
    exact class?_suffix hclass
  case h_5 | h_6 | h_7 =>
    obtain ⟨q, -, heq⟩ := Option.map_eq_some_iff.1 h
    cases heq
    exact skipLazy_suffix cs
  case h_8 =>
    simp only [Option.bind_eq_bind, Option.bind_eq_some_iff] at h
    obtain ⟨⟨⟨low, high⟩, r⟩, hbounds, q, -, heq⟩ := h
    cases heq
    exact ((skipLazy_suffix _).trans (skip_suffix p.flags r)).trans (bounds?_suffix hbounds)
  case h_9 =>
    simp only [Option.bind_eq_bind, Option.bind_eq_some_iff] at h
    obtain ⟨⟨piece, r⟩, hescape, e, -, heq⟩ := h
    cases heq
    exact escape?_suffix hescape
  case h_10 =>
    obtain ⟨s, -, heq⟩ := Option.map_eq_some_iff.1 h
    cases heq
    exact List.suffix_refl _
  case h_3 | h_11 | h_12 | h_13 =>
    cases h
    exact List.suffix_refl _

end Webform.Pattern
