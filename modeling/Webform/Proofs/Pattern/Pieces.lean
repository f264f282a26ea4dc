import Webform.Proofs.Pattern.Rest

/-!
# Pieces of a pattern that more text follows

What a reader makes of a piece does not change when text follows that closes a group (`Closes`): the reader leaves that text
too, or it leaves nothing at all, because the piece ends in blanks and an open comment, of which the text becomes a part
(`Persists`).
-/

namespace Webform.Pattern

open Unicode (CharSet)

/-- Text that starts by closing a group, without a line break to end a comment and without a colon to end the name of a class. -/
structure Closes (ys : List Char) : Prop where
  first : ∃ t, ys = ')' :: t
  line : '\n' ∉ ys
  colon : ':' ∉ ys

/-- With more text after it, a piece is read as before and the text is left after what was left before. -/
def Kept {α : Type} (read : List Char → Option (α × List Char)) (cs : List Char) (a : α) (rest : List Char) : Prop :=
  ∀ ys, Closes ys → read (cs ++ ys) = some (a, rest ++ ys)

/-- With more text after it, a piece is read as before, and all of it is passed over. -/
def Swallowed {α : Type} (read : List Char → Option (α × List Char)) (cs : List Char) (a : α) : Prop :=
  ∀ ys, Closes ys → read (cs ++ ys) = some (a, [])

/-- A number sign stands in the text, and no line break after it. -/
def OpensComment (cs : List Char) : Prop := ∃ before comment, cs = before ++ '#' :: comment ∧ '\n' ∉ comment

theorem OpensComment.of_suffix {r cs : List Char} (h : OpensComment r) (hr : r <:+ cs) : OpensComment cs := by
  obtain ⟨before, comment, rfl, hline⟩ := h
  obtain ⟨t, rfl⟩ := hr
  exact ⟨t ++ before, comment, by simp, hline⟩

/-- A comment goes on with a further character that does not end the line. -/
theorem OpensComment.cons_cons {c : Char} {cs : List Char} (h : OpensComment ('#' :: cs)) (hc : c ≠ '\n') :
    OpensComment ('#' :: c :: cs) := by
  obtain ⟨before, comment, heq, hline⟩ := h
  cases before with
  | nil =>
    cases heq
    exact ⟨[], c :: cs, rfl, by simp [hline, Ne.symm hc]⟩
  | cons d before =>
    obtain ⟨rfl, rfl⟩ := List.cons.inj heq
    exact ⟨'#' :: c :: before, comment, rfl, hline⟩

/-- With more text after it, a piece is read as before; what is left is the same with the text after it, or nothing, because of a
comment. -/
def Persists {α : Type} (read : List Char → Option (α × List Char)) (cs : List Char) (a : α) (rest : List Char) : Prop :=
  Kept read cs a rest ∨ (rest = [] ∧ OpensComment cs ∧ Swallowed read cs a)

/-- Where something is left, more text is left too. -/
theorem Persists.kept {α : Type} {read : List Char → Option (α × List Char)} {cs : List Char} {a : α} {rest : List Char}
    (h : Persists read cs a rest) (hrest : rest ≠ []) : Kept read cs a rest := by
  rcases h with h | ⟨hnil, -⟩
  · exact h
  · exact absurd hnil hrest

/-- A piece persists when all but its start, which is read without a look at what follows, does. -/
theorem Persists.of_suffix {α : Type} {read read' : List Char → Option (α × List Char)} {r cs rest : List Char} {a : α}
    (h : Persists read r a rest) (hr : r <:+ cs) (hread : ∀ ys, read' (cs ++ ys) = read (r ++ ys)) :
    Persists read' cs a rest := by
  rcases h with hkept | ⟨hnil, hopens, hswallowed⟩
  · exact Or.inl fun ys hys => (hread ys).trans (hkept ys hys)
  · exact Or.inr ⟨hnil, hopens.of_suffix hr, fun ys hys => (hread ys).trans (hswallowed ys hys)⟩

/-! ## Blanks and comments -/

/-- The text goes on after the blanks and comments, or a comment is open at its end. -/
theorem skipVerbose_append (inComment : Bool) (cs : List Char) :
    (∀ ys, Closes ys → skipVerbose inComment (cs ++ ys) = skipVerbose inComment cs ++ ys) ∨
      (skipVerbose inComment cs = [] ∧ OpensComment (if inComment then '#' :: cs else cs) ∧
        ∀ ys, Closes ys → skipVerbose inComment (cs ++ ys) = []) := by
  induction cs generalizing inComment with
  | nil =>
    cases inComment with
    | false =>
      refine Or.inl fun ys hys => ?_
      obtain ⟨t, rfl⟩ := hys.first
      rfl
    | true =>
      refine Or.inr ⟨rfl, ⟨[], [], rfl, by simp⟩, fun ys hys => ?_⟩
      have hline := hys.line
      clear hys
      rw [List.nil_append]
      induction ys with
      | nil => rfl
      | cons c ys ih =>
        simp only [List.mem_cons, not_or] at hline
        have hc : (c != '\n') = true := by simpa using Ne.symm hline.1
        rw [skipVerbose, if_pos rfl, hc]
        exact ih hline.2
  | cons c cs ih =>
    simp only [List.cons_append, skipVerbose]
    cases inComment with
    | true =>
      rcases ih (c != '\n') with hkept | ⟨hnil, hopens, hswallowed⟩
      · exact Or.inl hkept
      · refine Or.inr ⟨hnil, ?_, hswallowed⟩
        by_cases hc : c = '\n'
        · simp only [hc, bne_self_eq_false] at hopens
          exact hopens.of_suffix (List.suffix_append ['#', c] cs)
        · simp only [bne_iff_ne.2 hc] at hopens
          exact hopens.cons_cons hc
    | false =>
      by_cases hblank : Text.isBlankChar c = true
      · simp only [hblank, if_true]
        rcases ih false with hkept | ⟨hnil, hopens, hswallowed⟩
        · exact Or.inl hkept
        · exact Or.inr ⟨hnil, hopens.of_suffix (List.suffix_cons c cs), hswallowed⟩
      · by_cases hmark : c = '#'
        · subst hmark
          simpa [hblank] using ih true
        · exact Or.inl fun ys _ => by simp [hblank, hmark]

theorem skip_append (fs : Flags) (cs : List Char) :
    (∀ ys, Closes ys → skip fs (cs ++ ys) = skip fs cs ++ ys) ∨
      (skip fs cs = [] ∧ OpensComment cs ∧ ∀ ys, Closes ys → skip fs (cs ++ ys) = []) := by
  unfold skip
  cases fs.verbose with
  | true => exact skipVerbose_append false cs
  | false => exact Or.inl fun _ _ => rfl

theorem skip_append_of_cons {fs : Flags} {cs r : List Char} {c : Char} (h : skip fs cs = c :: r) {ys : List Char}
    (hys : Closes ys) : skip fs (cs ++ ys) = c :: (r ++ ys) := by
  rcases skip_append fs cs with hkept | ⟨hnil, -⟩
  · rw [hkept ys hys, h, List.cons_append]
  · rw [h] at hnil
    cases hnil

theorem length_skip_le (fs : Flags) (cs : List Char) : (skip fs cs).length ≤ cs.length := (skip_suffix fs cs).length_le

/-- A piece after which blanks and comments are passed over persists. -/
theorem persists_of_skip {α : Type} {read : List Char → Option (α × List Char)} {fs : Flags} {cs rest : List Char} {a : α}
    (hrest : rest <:+ cs) (h : ∀ ys, Closes ys → read (cs ++ ys) = some (a, skip fs (rest ++ ys))) :
    Persists read cs a (skip fs rest) := by
  rcases skip_append fs rest with hskip | ⟨hnil, hopens, hskip⟩
  · exact Or.inl fun ys hys => by rw [h ys hys, hskip ys hys]
  · exact Or.inr ⟨hnil, hopens.of_suffix hrest, fun ys hys => by rw [h ys hys, hskip ys hys]⟩

/-! ## Runs of characters -/

/-- A run that ends before some character ends there too when more follows. -/
theorem takeSkipping_append {fs : Flags} {p : Char → Bool} {n m : Nat} {cs taken r : List Char} {c : Char}
    (h : takeSkipping fs p n cs = (taken, c :: r)) (hn : cs.length ≤ n) {ys : List Char} (hys : Closes ys) (hm : n ≤ m) :
    takeSkipping fs p m (cs ++ ys) = (taken, c :: (r ++ ys)) := by
  induction n generalizing m cs taken with
  | zero =>
    rw [List.eq_nil_of_length_eq_zero (Nat.le_zero.1 hn)] at h
    cases h
  | succ n ih =>
    obtain ⟨m, rfl⟩ : ∃ k, m = k + 1 := ⟨m - 1, by omega⟩
    cases cs with
    | nil => cases h
    | cons d cs =>
      rw [takeSkipping] at h
      rw [List.cons_append, takeSkipping]
      by_cases hd : p d = true
      · simp only [hd, if_true] at h ⊢
        have hlength : (skip fs cs).length ≤ n := Nat.le_trans (length_skip_le fs cs) (Nat.le_of_succ_le_succ hn)
        cases hinner : takeSkipping fs p n (skip fs cs) with
        | mk taken' rest' =>
          rw [hinner] at h
          obtain ⟨rfl, rfl⟩ := Prod.mk.inj h
          have hskip : skip fs (cs ++ ys) = skip fs cs ++ ys := by
            cases hs : skip fs cs with
            | nil =>
              rw [hs] at hinner
              cases n <;> cases hinner
            | cons x xs =>
              rw [skip_append_of_cons hs hys]
              rfl
          rw [hskip, ih hinner hlength (Nat.le_of_succ_le_succ hm)]
      · simp only [hd] at h ⊢
        cases h
        rfl

theorem takeAll_append {fs : Flags} {p : Char → Bool} {cs taken r : List Char} {c : Char} (h : takeAll fs p cs = (taken, c :: r))
    {ys : List Char} (hys : Closes ys) : takeAll fs p (cs ++ ys) = (taken, c :: (r ++ ys)) :=
  takeSkipping_append h (Nat.le_refl _) hys (by simp)

theorem takeAll_skip_append {fs : Flags} {p : Char → Bool} {cs taken r : List Char} {c : Char}
    (h : takeAll fs p (skip fs cs) = (taken, c :: r)) {ys : List Char} (hys : Closes ys) :
    takeAll fs p (skip fs (cs ++ ys)) = (taken, c :: (r ++ ys)) := by
  cases hs : skip fs cs with
  | nil =>
    rw [hs] at h
    cases h
  | cons d t =>
    rw [skip_append_of_cons hs hys, ← List.cons_append, ← hs]
    exact takeAll_append h hys

/-- Where a run of characters stops before a character it stops there too when more follows. -/
theorem takeWhile_dropWhile_append {p : Char → Bool} {cs r : List Char} {c : Char} (h : cs.dropWhile p = c :: r)
    (ys : List Char) : (cs ++ ys).takeWhile p = cs.takeWhile p ∧ (cs ++ ys).dropWhile p = c :: (r ++ ys) := by
  induction cs with
  | nil => cases h
  | cons d cs ih =>
    by_cases hd : p d = true
    · rw [List.dropWhile_cons_of_pos hd] at h
      obtain ⟨htake, hdrop⟩ := ih h
      rw [List.cons_append, List.takeWhile_cons_of_pos hd, List.dropWhile_cons_of_pos hd, List.takeWhile_cons_of_pos hd, htake]
      exact ⟨rfl, hdrop⟩
    · rw [List.dropWhile_cons_of_neg hd] at h
      rw [List.cons_append, List.takeWhile_cons_of_neg hd, List.dropWhile_cons_of_neg hd, List.takeWhile_cons_of_neg hd,
        ← List.cons_append, h]
      exact ⟨rfl, rfl⟩

/-! ## Escapes -/

theorem persists_takeHex? {fs : Flags} {n : Nat} {cs taken rest : List Char} (h : takeHex? fs n cs = some (taken, rest)) :
    Persists (takeHex? fs n) cs taken rest := by
  induction n generalizing cs taken with
  | zero =>
    cases h
    exact Or.inl fun _ _ => rfl
  | succ n ih =>
    cases cs with
    | nil => cases h
    | cons c cs =>
      simp only [takeHex?, Option.bind_eq_bind, Option.bind_eq_some_iff] at h
      obtain ⟨d, hc, ⟨taken', rest'⟩, hinner, heq⟩ := h
      obtain ⟨rfl, rfl⟩ := Prod.mk.inj (Option.some.inj heq)
      have hend := List.suffix_cons c cs
      rcases skip_append fs cs with hskip | ⟨hnil, hopens, hskip⟩
      · rcases ih hinner with hkept | ⟨hrest, hopens, hswallowed⟩
        · exact Or.inl fun ys hys => by simp [takeHex?, hc, hskip ys hys, hkept ys hys]
        · exact Or.inr ⟨hrest, hopens.of_suffix ((skip_suffix fs cs).trans hend),
            fun ys hys => by simp [takeHex?, hc, hskip ys hys, hswallowed ys hys]⟩
      · rw [hnil] at hinner
        cases n with
        | zero =>
          cases hinner
          exact Or.inr ⟨rfl, hopens.of_suffix hend, fun ys hys => by simp [takeHex?, hc, hskip ys hys]⟩
        | succ n => cases hinner

theorem persists_hexEscape? {fs : Flags} {letter : Char} {cs rest : List Char} {x : Primitive}
    (h : hexEscape? fs letter cs = some (x, rest)) : Persists (hexEscape? fs letter) cs x rest := by
  unfold hexEscape? at h
  split at h
  · cases h
  · rename_i r hbrace
    simp only [Option.bind_eq_bind, Option.bind_eq_some_iff] at h
    obtain ⟨n, hn, h⟩ := h
    split at h
    · rename_i d rest' htake
      obtain ⟨taken, hpair⟩ : ∃ taken, takeAll fs (fun x => x != '}') (skip fs r) = (taken, d :: rest') := ⟨_, Prod.ext rfl htake⟩
      rw [hpair] at h hn
      simp only [Option.ite_none_left_eq_some, Option.bind_eq_some_iff] at h
      obtain ⟨hne, c, hc, heq⟩ := h
      obtain ⟨rfl, rfl⟩ := Prod.mk.inj (Option.some.inj heq)
      refine persists_of_skip (suffix_of_braces hbrace htake) fun ys hys => ?_
      simp [hexEscape?, skip_append_of_cons hbrace hys, takeAll_skip_append hpair hys, hn, hne, hc]
    · cases h
  · rename_i hnil hbrace
    obtain ⟨c, r, hr⟩ := List.exists_cons_of_ne_nil hnil
    have hc : c ≠ '{' := fun he => hbrace r (he ▸ hr)
    simp only [hr, Option.bind_eq_bind, Option.bind_eq_some_iff] at h
    obtain ⟨⟨taken, rest'⟩, htake, n, hn, d, hd, heq⟩ := h
    obtain ⟨rfl, rfl⟩ := Prod.mk.inj (Option.some.inj heq)
    rcases persists_takeHex? htake with hkept | ⟨hnil, hopens, hswallowed⟩
    · refine Or.inl fun ys hys => ?_
      have hinner := hkept ys hys
      rw [List.cons_append] at hinner
      simp [hexEscape?, skip_append_of_cons hr hys, hc, hinner, hn, hd]
    · refine Or.inr ⟨hnil, hopens.of_suffix (hr ▸ skip_suffix fs cs), fun ys hys => ?_⟩
      have hinner := hswallowed ys hys
      rw [List.cons_append] at hinner
      simp [hexEscape?, skip_append_of_cons hr hys, hc, hinner, hn, hd]

theorem persists_propertyEscape? {fs : Flags} {negated : Bool} {cs rest : List Char} {x : Primitive}
    (h : propertyEscape? fs negated cs = some (x, rest)) : Persists (propertyEscape? fs negated) cs x rest := by
  simp only [propertyEscape?, Option.bind_eq_bind] at h
  split at h
  · cases h
  · cases h
  · rename_i r hbrace
    split at h
    · rename_i d rest' htake
      obtain ⟨name, hpair⟩ : ∃ name, takeAll fs (fun x => x != '}') (skip fs r) = (name, d :: rest') := ⟨_, Prod.ext rfl htake⟩
      rw [hpair] at h
      simp only [Option.bind_eq_some_iff, Option.map_eq_some_iff] at h
      obtain ⟨_, ⟨p, hp, rfl⟩, h⟩ := h
      simp only [Option.ite_none_left_eq_some, Option.bind_eq_some_iff] at h
      obtain ⟨hunicode, s, hs, heq⟩ := h
      obtain ⟨rfl, rfl⟩ := Prod.mk.inj (Option.some.inj heq)
      refine Or.inl fun ys hys => ?_
      simp [propertyEscape?, skip_append_of_cons hbrace hys, takeAll_skip_append hpair hys, hp, hunicode, hs]
    · cases h
  · rename_i c r _ _ hskip
    simp only [Option.bind_eq_some_iff, Option.map_eq_some_iff] at h
    obtain ⟨_, ⟨p, hp, rfl⟩, h⟩ := h
    simp only [Option.ite_none_left_eq_some, Option.bind_eq_some_iff] at h
    obtain ⟨hunicode, s, hs, heq⟩ := h
    obtain ⟨rfl, rfl⟩ := Prod.mk.inj (Option.some.inj heq)
    rw [Bool.bne_false] at hs
    refine persists_of_skip (suffix_of_skip_eq_cons hskip) fun ys hys => ?_
    simp [propertyEscape?, skip_append_of_cons hskip hys, hp, hunicode, hs]

theorem kept_boundaryName? {fs : Flags} {cs rest : List Char} {b : Boundary} (h : boundaryName? fs cs = some (b, rest)) :
    Kept (boundaryName? fs) cs b rest := by
  intro ys hys
  unfold boundaryName? at h
  split at h
  · rename_i r
    split at h
    · cases h
    · rename_i c r' hskip
      by_cases hchar : isBoundaryChar c = true
      · simp only [hchar, Bool.not_true, Bool.false_eq_true, if_false] at h
        split at h
        · rename_i rest' htake
          obtain ⟨name, hpair⟩ : ∃ name, takeAll fs isBoundaryChar (c :: r') = (name, '}' :: rest') := ⟨_, Prod.ext rfl htake⟩
          rw [hpair] at h
          have htake' := takeAll_append hpair hys
          rw [List.cons_append] at htake'
          split at h
          case h_5 => cases h
          all_goals
            rename_i hname
            cases h
            simp [boundaryName?, skip_append_of_cons hskip hys, hchar, htake', hname]
        · cases h
      · simp only [hchar] at h
        cases h
        simp [boundaryName?, skip_append_of_cons hskip hys, hchar]
  · rename_i hbrace
    cases h
    cases cs with
    | nil =>
      obtain ⟨t, rfl⟩ := hys.first
      rfl
    | cons c cs =>
      have hc : c ≠ '{' := fun he => hbrace cs (he ▸ rfl)
      simp [boundaryName?, hc]

theorem persists_escape? {fs : Flags} {cs rest : List Char} {x : Primitive} (h : escape? fs cs = some (x, rest)) :
    Persists (escape? fs) cs x rest := by
  cases cs with
  | nil => cases h
  | cons c cs =>
    have hend := List.suffix_cons c cs
    rcases escape?_cases h with ⟨hread, hhex⟩ | ⟨hread, hproperty⟩ | ⟨hread, b, hb, rfl⟩ | ⟨rfl, hread⟩
    · exact (persists_hexEscape? hhex).of_suffix hend fun ys => hread (cs ++ ys)
    · exact (persists_propertyEscape? hproperty).of_suffix hend fun ys => hread (cs ++ ys)
    · exact Or.inl fun ys hys => by rw [List.cons_append, hread, kept_boundaryName? hb ys hys, Option.map_some]
    · exact Or.inl fun ys _ => hread (rest ++ ys)

/-! ## Numbers of repetitions -/

theorem decimal?_append {fs : Flags} {cs r : List Char} {n : Option Nat} {c : Char} (h : decimal? fs cs = (n, c :: r))
    {ys : List Char} (hys : Closes ys) : decimal? fs (cs ++ ys) = (n, c :: (r ++ ys)) := by
  unfold decimal? at h ⊢
  cases hdigits : takeAll fs Char.isDigit (cs.dropWhile Text.isBlankChar) with
  | mk ds rest =>
    cases hblanks : takeAll fs Text.isBlankChar rest with
    | mk bs rest' =>
      simp only [hdigits, hblanks] at h
      obtain ⟨hn, rfl⟩ := Prod.mk.inj h
      cases rest with
      | nil => cases hblanks
      | cons d t =>
        cases hstart : cs.dropWhile Text.isBlankChar with
        | nil =>
          rw [hstart] at hdigits
          cases hdigits
        | cons e u =>
          have hdrop : (cs ++ ys).dropWhile Text.isBlankChar = cs.dropWhile Text.isBlankChar ++ ys := by
            rw [(takeWhile_dropWhile_append hstart ys).2, hstart, List.cons_append]
          have hblanks' := takeAll_append hblanks hys
          rw [List.cons_append] at hblanks'
          simp only [hdrop, takeAll_append hdigits hys, hblanks', hn]

theorem decimal?_skip_append {fs : Flags} {cs r : List Char} {n : Option Nat} {c : Char}
    (h : decimal? fs (skip fs cs) = (n, c :: r)) {ys : List Char} (hys : Closes ys) :
    decimal? fs (skip fs (cs ++ ys)) = (n, c :: (r ++ ys)) := by
  cases hs : skip fs cs with
  | nil =>
    rw [hs] at h
    cases h
  | cons d t =>
    rw [skip_append_of_cons hs hys, ← List.cons_append, ← hs]
    exact decimal?_append h hys

theorem kept_bounds? {fs : Flags} {cs rest : List Char} {x : Nat × Option Nat} (h : bounds? fs cs = some (x, rest)) :
    Kept (bounds? fs) cs x rest := by
  intro ys hys
  simp only [bounds?, Option.bind_eq_bind, Option.bind_eq_some_iff] at h
  obtain ⟨low, hlow, h⟩ := h
  split at h
  · rename_i r hr
    have hpair : decimal? fs (skip fs cs) = (some low, '}' :: r) := Prod.ext hlow hr
    cases h
    simp [bounds?, decimal?_skip_append hpair hys]
  · rename_i r hr
    have hpair : decimal? fs (skip fs cs) = (some low, ',' :: r) := Prod.ext hlow hr
    split at h
    · rename_i r' hskip
      cases h
      simp [bounds?, decimal?_skip_append hpair hys, skip_append_of_cons hskip hys]
    · rename_i hbrace
      simp only [Option.bind_eq_some_iff] at h
      obtain ⟨high, hhigh, h⟩ := h
      split at h
      · rename_i r' hr'
        have hpair' : decimal? fs (skip fs r) = (some high, '}' :: r') := Prod.ext hhigh hr'
        simp only [Option.ite_none_right_eq_some] at h
        obtain ⟨hle, heq⟩ := h
        cases heq
        cases hs : skip fs r with
        | nil =>
          rw [hs] at hpair'
          cases hpair'
        | cons d t =>
          have hd : d ≠ '}' := fun he => hbrace t (he ▸ hs)
          have hhigh' := decimal?_skip_append hpair' hys
          rw [skip_append_of_cons hs hys] at hhigh'
          simp [bounds?, decimal?_skip_append hpair hys, skip_append_of_cons hs hys, hd, hhigh', hle]
      · cases h
  · cases h

/-! ## Groups -/

theorem flagsUpTo?_append {fs : Flags} {seen : List Flag} {negated : Bool} {last : Char} {cs rest : List Char}
    {x : Flags × Char × Bool}
    (h : flagsUpTo? fs seen negated last cs = some (x, rest)) (ys : List Char) :
    flagsUpTo? fs seen negated last (cs ++ ys) = some (x, rest ++ ys) := by
  induction cs generalizing fs seen negated last with
  | nil => cases h
  | cons c cs ih =>
    rw [flagsUpTo?] at h
    rw [List.cons_append, flagsUpTo?]
    by_cases hend : c = ':' ∨ c = ')'
    · rw [if_pos hend] at h ⊢
      by_cases hlast : last = '-'
      · rw [if_pos hlast] at h
        cases h
      · rw [if_neg hlast] at h ⊢
        cases h
        rfl
    rw [if_neg hend] at h ⊢
    by_cases hhyphen : c = '-'
    · rw [if_pos hhyphen] at h ⊢
      cases negated with
      | true => cases h
      | false => exact ih h
    rw [if_neg hhyphen] at h ⊢
    cases hflag : Flag.ofChar? c with
    | none =>
      rw [hflag] at h
      cases h
    | some f =>
      rw [hflag] at h
      by_cases hseen : f ∈ seen
      · simp only [if_pos hseen] at h
        cases h
      · simp only [if_neg hseen] at h ⊢
        exact ih h

theorem groupName?_append {cs name rest : List Char} (h : groupName? cs = some (name, rest)) (ys : List Char) :
    groupName? (cs ++ ys) = some (name, rest ++ ys) := by
  unfold groupName? at h ⊢
  cases hdrop : cs.dropWhile (· != '>') with
  | nil =>
    rw [hdrop] at h
    cases h
  | cons d r =>
    obtain ⟨htake, hdrop'⟩ := takeWhile_dropWhile_append hdrop ys
    cases hname : cs.takeWhile (· != '>') with
    | nil =>
      simp only [hdrop, hname] at h
      cases h
    | cons c more =>
      simp only [hdrop, hname, Option.ite_none_right_eq_some] at h
      obtain ⟨hchars, heq⟩ := h
      obtain ⟨rfl, rfl⟩ := Prod.mk.inj (Option.some.inj heq)
      simp only [htake, hdrop', hname, if_pos hchars]

/-- With more text after it, the beginning of a group is read as before. -/
theorem persists_opening? {fs : Flags} {cs rest : List Char} {o : Opening} (h : opening? fs cs = some (o, rest)) :
    Persists (opening? fs) cs o rest := by
  unfold opening? at h
  split at h
  case h_1 | h_2 | h_3 | h_4 => cases h
  case h_5 r hskip =>
    rw [Option.map_eq_some_iff] at h
    obtain ⟨⟨name, r'⟩, hname, heq⟩ := h
    cases heq
    exact Or.inl fun ys hys => by simp [opening?, skip_append_of_cons hskip hys, groupName?_append hname ys]
  case h_6 r hlookbehind hlookbehind' hskip =>
    rw [Option.map_eq_some_iff] at h
    obtain ⟨⟨name, r'⟩, hname, heq⟩ := h
    cases heq
    refine Or.inl fun ys hys => ?_
    cases r with
    | nil => cases hname
    | cons d t =>
      have hd : d ≠ '=' := fun he => hlookbehind t (he ▸ rfl)
      have hd' : d ≠ '!' := fun he => hlookbehind' t (he ▸ rfl)
      have hname' := groupName?_append hname ys
      rw [List.cons_append] at hname'
      simp [opening?, skip_append_of_cons hskip hys, hd, hd', hname']
  case h_7 r hahead hahead' _ _ _ hname hskip =>
    simp only [Option.bind_eq_bind, Option.bind_eq_some_iff] at h
    obtain ⟨⟨⟨fs', last, some_⟩, r'⟩, hflags, h⟩ := h
    refine Or.inl fun ys hys => ?_
    cases r with
    | nil => cases hflags
    | cons d t =>
      have hequal : d ≠ '=' := fun he => hahead t (he ▸ rfl)
      have hnot : d ≠ '!' := fun he => hahead' t (he ▸ rfl)
      have hangle : d ≠ '<' := fun he => hname t (he ▸ rfl)
      -- No flag has the letter of the other way to write a named group.
      have hletter : d ≠ 'P' := by
        rintro rfl
        cases hflags
      have hflags' := flagsUpTo?_append hflags ys
      rw [List.cons_append] at hflags'
      by_cases hlast : last = ':'
      · rw [if_pos hlast] at h
        cases h
        simp [opening?, skip_append_of_cons hskip hys, hequal, hnot, hangle, hletter, hflags', hlast]
      · rw [if_neg hlast, Option.ite_none_right_eq_some] at h
        obtain ⟨hsome, heq⟩ := h
        cases heq
        have hsome' : some_ = true := hsome
        simp [opening?, skip_append_of_cons hskip hys, hequal, hnot, hangle, hletter, hflags', hlast, hsome']
  case h_8 _ _ _ _ _ _ hquestion =>
    cases h
    cases hs : skip fs cs with
    | nil =>
      rcases skip_append fs cs with hskip | ⟨-, hopens, hskip⟩
      · refine Or.inl fun ys hys => ?_
        rw [opening?, hskip ys hys, hs]
        obtain ⟨t, rfl⟩ := hys.first
        rfl
      · refine Or.inr ⟨rfl, hopens, fun ys hys => ?_⟩
        rw [opening?, hskip ys hys]
    | cons d t =>
      have hd : d ≠ '?' := fun he => hquestion t (he ▸ hs)
      refine Or.inl fun ys hys => ?_
      simp [opening?, skip_append_of_cons hs hys, hd]

end Webform.Pattern
