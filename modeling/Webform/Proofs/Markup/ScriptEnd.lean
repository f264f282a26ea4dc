import Mathlib.Data.List.Infix
import Webform.Markup.ScriptData
import Webform.Proofs.Markup.ReadBack

/-!
# Where the author's script ends

In an escaped script no end tag is left, so the script never ends in its own text (`foldlM_escapeBody`). It ends at the end tag that
is put after it unless that is read in doubly escaped data, which can be told from the author's text: it leaves a comment open in
which a script's tag starts (`LeavesScriptOpen`).
-/

namespace Webform

namespace Markup

/-! ## Texts that leave a script open -/

/-- A script's tag starts in the text, up to the character that ends its name. -/
def HoldsScriptTag (u : List Char) : Prop :=
  ∃ name c, '<' :: name ++ [c] <:+: u ∧ name.map Char.toLower = scriptName ∧ endsTagName c

/-- After some comment opener the comment does not end, and a script's tag starts in it. The hyphens of the opener count for the end
of the comment. -/
def LeavesScriptOpen (cs : List Char) : Prop :=
  ∃ a u, cs = a ++ '<' :: '!' :: '-' :: '-' :: u ∧ ¬['-', '-', '>'] <:+: '-' :: '-' :: u ∧ HoldsScriptTag u

theorem concat_suffix_concat {α : Type} {l m : List α} {a b : α} : l ++ [a] <:+ m ++ [b] ↔ l <:+ m ∧ a = b := by
  rw [List.suffix_concat_iff]
  constructor
  · rintro (h | ⟨t, h, ht⟩)
    · simp at h
    · obtain ⟨rfl, h⟩ := List.append_inj' h rfl
      exact ⟨ht, by simpa using h⟩
  · rintro ⟨h, rfl⟩
    exact Or.inr ⟨l, rfl, h⟩

theorem singleton_suffix_concat {α : Type} {m : List α} {a b : α} : [a] <:+ m ++ [b] ↔ a = b := by
  rw [← List.nil_append [a], concat_suffix_concat]
  simp

theorem commentEnd_infix_concat (v : List Char) (c : Char) :
    ['-', '-', '>'] <:+: v ++ [c] ↔ (['-', '-'] <:+ v ∧ c = '>') ∨ ['-', '-', '>'] <:+: v := by
  rw [List.infix_concat_iff, ← concat_suffix_concat.trans (and_congr_right' eq_comm)]
  rfl

/-- A character ends the start of a script's tag, or one has been there before. -/
theorem holdsScriptTag_concat (u : List Char) (c : Char) :
    HoldsScriptTag (u ++ [c]) ↔
      ((∃ name, '<' :: name <:+ u ∧ name.map Char.toLower = scriptName) ∧ endsTagName c) ∨ HoldsScriptTag u := by
  simp only [HoldsScriptTag, List.infix_concat_iff, concat_suffix_concat]
  constructor
  · rintro ⟨name, d, ⟨h, rfl⟩ | h, hname, hd⟩
    · exact Or.inl ⟨⟨name, h, hname⟩, hd⟩
    · exact Or.inr ⟨name, d, h, hname, hd⟩
  · rintro (⟨⟨name, h, hname⟩, hc⟩ | ⟨name, d, h, hname, hd⟩)
    · exact ⟨name, c, Or.inl ⟨h, rfl⟩, hname, hc⟩
    · exact ⟨name, d, Or.inr h, hname, hd⟩

theorem isAlpha_of_toLower {c : Char} (h : c.toLower.isAlpha) : c.isAlpha := by
  unfold Char.toLower at h
  split at h
  case isTrue hupper => exact Bool.or_eq_true_iff.2 (Or.inl (decide_eq_true hupper))
  case isFalse => exact h

/-- The name of a tag that is a script's is made of letters. -/
theorem isAlpha_of_map_toLower {name : List Char} (h : name.map Char.toLower = scriptName) : ∀ c ∈ name, c.isAlpha := by
  intro c hc
  have hmem : c.toLower ∈ scriptName := h ▸ List.mem_map_of_mem hc
  have hall : scriptName.all Char.isAlpha := by decide
  exact isAlpha_of_toLower (List.all_eq_true.1 hall _ hmem)

/-- No letter ends the name of a tag. -/
theorem endsTagName_eq_false {c : Char} (h : c.isAlpha) : endsTagName c = false := by
  by_contra hc
  simp only [endsTagName, Bool.not_eq_false, List.contains_eq_mem, List.mem_cons, List.not_mem_nil, or_false, decide_eq_true_eq] at hc
  rcases hc with rfl | rfl | rfl | rfl | rfl | rfl | rfl <;> exact absurd h (by decide)

/-! ## Reading an escaped script -/

namespace ScriptState

/-- Takes one character of the author's script, where an end tag that it would start is broken up. -/
def takeEscaped (s : ScriptState) (c : Char) : ScriptState :=
  if s.pending = .bracket ∧ c = '/' then resume s.mode c else (s.step? c).getD s

/-- An opening bracket starts anew whatever came before it. -/
theorem step?_bracket (s : ScriptState) : s.step? '<' = some ⟨s.mode, .bracket⟩ := by
  obtain ⟨mode, pending⟩ := s
  cases pending <;> simp [step?, resume, endsTagName]

/-- No end tag is being read, and a bracket is the last character if one is being read at all. -/
structure Rests (s : ScriptState) (last : Char) : Prop where
  not_closing : ∀ name, s.pending ≠ .closing name
  bracket : s.pending = .bracket → last = '<'

theorem rests_resume (m : ScriptMode) (c : Char) : (resume m c).Rests c := by
  unfold resume
  split_ifs with h
  · exact ⟨by simp, fun _ => h⟩
  · exact ⟨by simp, by simp⟩
  · exact ⟨by simp, by simp⟩

/-- Outside an end tag each character is taken, and none but a slash after an opening bracket starts an end tag. -/
theorem exists_step?_eq {s : ScriptState} {c : Char} (hs : ∀ name, s.pending ≠ .closing name)
    (hc : s.pending = .bracket → c ≠ '/') : ∃ t, s.step? c = some t ∧ t.Rests c := by
  obtain ⟨mode, pending⟩ := s
  cases pending with
  | hyphens n =>
    simp only [step?]
    split_ifs
    · exact ⟨_, rfl, by simp, by simp⟩
    · exact ⟨_, rfl, by simp, by simp⟩
    · exact ⟨_, rfl, rests_resume mode c⟩
  | bracket =>
    simp only [step?, if_neg (hc rfl)]
    split_ifs
    · exact ⟨_, rfl, by simp, by simp⟩
    · exact ⟨_, rfl, by simp, by simp⟩
    · exact ⟨_, rfl, rests_resume mode c⟩
  | mark n =>
    simp only [step?]
    split_ifs
    · exact ⟨_, rfl, by simp, by simp⟩
    · exact ⟨_, rfl, by simp, by simp⟩
    · exact ⟨_, rfl, rests_resume mode c⟩
  | opening name =>
    simp only [step?]
    split_ifs
    · exact ⟨_, rfl, by simp, by simp⟩
    · exact ⟨_, rfl, by simp, by simp⟩
    · exact ⟨_, rfl, rests_resume mode c⟩
  | closing name => exact absurd rfl (hs name)

/-- A character is taken as ever if it is not a slash that an opening bracket comes before. -/
theorem takeEscaped_eq {s t : ScriptState} {c : Char} (h : s.step? c = some t) (hc : s.pending = .bracket → c ≠ '/') :
    s.takeEscaped c = t := by
  rw [takeEscaped, if_neg fun hb => hc hb.1 hb.2, h, Option.getD_some]

@[simp] theorem takeEscaped_bracket (s : ScriptState) : s.takeEscaped '<' = ⟨s.mode, .bracket⟩ :=
  takeEscaped_eq s.step?_bracket fun _ => by decide

/-- An escaped script never ends in its own text: it is taken character by character. -/
theorem foldlM_escapeBody (cs : List Char) {s : ScriptState} (hs : ∀ name, s.pending ≠ .closing name)
    (hb : s.pending = .bracket → cs.head? ≠ some '/') :
    (escapeBody cs).foldlM step? s = some (cs.foldl takeEscaped s) := by
  fun_induction escapeBody cs generalizing s with
  | case1 cs ih =>
    have hback : step? ⟨s.mode, .bracket⟩ '\\' = some ⟨s.mode, .hyphens 0⟩ := rfl
    have hslash : step? ⟨s.mode, .hyphens 0⟩ '/' = some ⟨s.mode, .hyphens 0⟩ := rfl
    have htake : takeEscaped ⟨s.mode, .bracket⟩ '/' = ⟨s.mode, .hyphens 0⟩ := rfl
    simp only [List.foldlM_cons, step?_bracket, Option.bind_eq_bind, Option.bind_some, hback, hslash, List.foldl_cons,
      takeEscaped_bracket, htake]
    exact ih (by simp) (by simp)
  | case2 c cs hne ih =>
    have hc : s.pending = .bracket → c ≠ '/' := fun hp h => hb hp (h ▸ rfl)
    obtain ⟨t, hstep, hrests⟩ := exists_step?_eq hs hc
    simp only [List.foldlM_cons, hstep, Option.bind_eq_bind, Option.bind_some, List.foldl_cons, takeEscaped_eq hstep hc]
    refine ih hrests.not_closing fun hp hhead => ?_
    -- A slash after a bracket would be the first case.
    obtain ⟨r, rfl⟩ := List.head?_eq_some_iff.1 hhead
    exact hne r (hrests.bracket hp) rfl
  | case3 => rfl

/-! ## Reading on in a comment -/

/-- What is being read of a tag after an opening bracket and some letters. -/
def tagPending (letters : List Char) : ScriptPending :=
  if letters = [] then .bracket else .opening (letters.map Char.toLower)

theorem tagPending_concat (letters : List Char) (c : Char) :
    tagPending (letters ++ [c]) = .opening (letters.map Char.toLower ++ [c.toLower]) := by
  simp [tagPending]

theorem map_toLower_eq_of_tagPending_eq {letters more : List Char} (h : tagPending letters = tagPending more) :
    letters.map Char.toLower = more.map Char.toLower := by
  unfold tagPending at h
  split_ifs at h <;> simp_all

/-- Where a reader stands that has come into a comment in the given mode and has read on in it. -/
structure InComment (m : ScriptMode) (u : List Char) (s : ScriptState) : Prop where
  mode_ne : s.mode ≠ .data
  doubleEscaped : s.mode = .doubleEscaped ↔ m = .doubleEscaped ∨ HoldsScriptTag u
  hyphen : ['-'] <:+ '-' :: '-' :: u ↔ ∃ n, 0 < n ∧ s.pending = .hyphens n
  hyphens : ['-', '-'] <:+ '-' :: '-' :: u ↔ s.pending = .hyphens 2
  pending : (∃ n, s.pending = .hyphens n) ∨ ∃ letters, '<' :: letters <:+ u ∧ s.pending = tagPending letters
  letters : s.mode = .escaped → ∀ letters, (∀ c ∈ letters, c.isAlpha) → '<' :: letters <:+ u → s.pending = tagPending letters

/-- Right after the comment opener. -/
theorem inComment_nil {m : ScriptMode} (hm : m ≠ .data) : InComment m [] ⟨m, .hyphens 2⟩ where
  mode_ne := hm
  doubleEscaped := by simp [HoldsScriptTag]
  hyphen := ⟨fun _ => ⟨2, by decide, rfl⟩, fun _ => by decide⟩
  hyphens := ⟨fun _ => rfl, fun _ => by decide⟩
  pending := Or.inl ⟨2, rfl⟩
  letters := by simp

theorem takeEscaped_hyphens (m : ScriptMode) (n : Nat) (c : Char) :
    takeEscaped ⟨m, .hyphens n⟩ c = if c = '-' ∧ m ≠ .data ∧ 0 < n then ⟨m, .hyphens 2⟩
      else if c = '>' ∧ n = 2 then ⟨.data, .hyphens 0⟩ else resume m c := by
  refine takeEscaped_eq ?_ (by simp)
  simp only [step?]
  split_ifs <;> rfl

theorem takeEscaped_afterBracket (m : ScriptMode) (c : Char) :
    takeEscaped ⟨m, .bracket⟩ c = if c = '!' ∧ m = .data then ⟨m, .mark 0⟩
      else if c.isAlpha ∧ m = .escaped then ⟨m, .opening [c.toLower]⟩ else resume m c := by
  by_cases hc : c = '/'
  · subst hc
    rfl
  · refine takeEscaped_eq ?_ fun _ => hc
    simp only [step?, if_neg hc]
    split_ifs <;> rfl

theorem takeEscaped_mark (m : ScriptMode) (n : Nat) (c : Char) :
    takeEscaped ⟨m, .mark n⟩ c =
      if c = '-' then (if n = 0 then ⟨m, .mark 1⟩ else ⟨.escaped, .hyphens 2⟩) else resume m c := by
  refine takeEscaped_eq ?_ (by simp)
  simp only [step?]
  split_ifs <;> rfl

theorem takeEscaped_opening (m : ScriptMode) (name : List Char) (c : Char) :
    takeEscaped ⟨m, .opening name⟩ c = if endsTagName c ∧ name = scriptName then ⟨.doubleEscaped, .hyphens 0⟩
      else if c.isAlpha then ⟨m, .opening (name ++ [c.toLower])⟩ else resume m c := by
  refine takeEscaped_eq ?_ (by simp)
  simp only [step?]
  split_ifs <;> rfl

namespace InComment

variable {m : ScriptMode} {u : List Char} {s : ScriptState} {c : Char}

/-- A tag in which only letters have been read is read on by a letter and ended by no letter. -/
theorem letters_concat (h : InComment m u s) (hs : s.mode = .escaped) {letters : List Char} (hletters : ∀ d ∈ letters, d.isAlpha)
    (hsuffix : '<' :: letters <:+ u ++ [c]) :
    (letters = [] ∧ c = '<') ∨ ∃ before, letters = before ++ [c] ∧ c.isAlpha ∧ '<' :: before <:+ u ∧ s.pending = tagPending before := by
  rcases List.eq_nil_or_concat letters with rfl | ⟨before, d, rfl⟩
  · exact Or.inl ⟨rfl, (singleton_suffix_concat.1 hsuffix).symm⟩
  · rw [List.concat_eq_append, ← List.cons_append, concat_suffix_concat] at hsuffix
    obtain ⟨hbefore, rfl⟩ := hsuffix
    refine Or.inr ⟨before, List.concat_eq_append, hletters d (by simp), hbefore, ?_⟩
    exact h.letters hs before (fun e he => hletters e (by simp [he])) hbefore

/-- Whether a script's tag has started is changed only by the character after its name. -/
theorem holdsScriptTag_concat_iff (h : InComment m u s) (hs : s.mode = .escaped)
    (hc : ¬(endsTagName c ∧ s.pending = .opening scriptName)) : HoldsScriptTag (u ++ [c]) ↔ HoldsScriptTag u := by
  rw [holdsScriptTag_concat]
  refine or_iff_right ?_
  rintro ⟨⟨name, hname, hscript⟩, hend⟩
  have hpending := h.letters hs name (isAlpha_of_map_toLower hscript) hname
  refine hc ⟨hend, ?_⟩
  rw [hpending, tagPending, if_neg, hscript]
  rintro rfl
  simp [scriptName] at hscript

/-- The mode says whether a script's tag has started, as long as no character after its name is read. -/
theorem doubleEscaped_concat (h : InComment m u s) (hc : ¬(endsTagName c ∧ s.pending = .opening scriptName)) :
    s.mode = .doubleEscaped ↔ m = .doubleEscaped ∨ HoldsScriptTag (u ++ [c]) := by
  cases hs : s.mode with
  | data => exact absurd hs h.mode_ne
  | escaped => rw [h.holdsScriptTag_concat_iff hs hc, ← h.doubleEscaped, hs]
  | doubleEscaped =>
    refine iff_of_true rfl ((h.doubleEscaped.1 hs).imp_right fun hheld => ?_)
    exact (holdsScriptTag_concat u c).2 (Or.inr hheld)

/-- Reading on where the character continues nothing. -/
theorem resume (h : InComment m u s) (hdash : c = '-' → ¬['-'] <:+ '-' :: '-' :: u)
    (hc : ¬(endsTagName c ∧ s.pending = .opening scriptName))
    (halpha : s.mode = .escaped → c.isAlpha → ∀ letters, s.pending ≠ tagPending letters) :
    InComment m (u ++ [c]) (resume s.mode c) := by
  have hmode : (ScriptState.resume s.mode c).mode = s.mode := by
    unfold ScriptState.resume
    split_ifs <;> rfl
  have hpending : (ScriptState.resume s.mode c).pending =
      if c = '<' then .bracket else if c = '-' then .hyphens 1 else .hyphens 0 := by
    unfold ScriptState.resume
    simp only [ne_eq, h.mode_ne, not_false_eq_true, and_true]
    split_ifs <;> rfl
  generalize ScriptState.resume s.mode c = t at hmode hpending
  refine ⟨hmode ▸ h.mode_ne, hmode ▸ h.doubleEscaped_concat hc, ?_, ?_, ?_, fun hs letters hletters hsuffix => ?_⟩
  · rw [hpending, ← List.cons_append, ← List.cons_append, singleton_suffix_concat, eq_comm]
    split_ifs <;> simp_all
  · rw [hpending, ← List.cons_append, ← List.cons_append, ← List.singleton_append, concat_suffix_concat, @eq_comm _ '-' c]
    split_ifs <;> simp_all
  · rw [hpending]
    split_ifs with h1
    · exact Or.inr ⟨[], by simp [h1], rfl⟩
    · exact Or.inl ⟨1, rfl⟩
    · exact Or.inl ⟨0, rfl⟩
  · rcases h.letters_concat (hmode ▸ hs) hletters hsuffix with ⟨rfl, rfl⟩ | ⟨before, -, hal, -, hp⟩
    · rw [hpending]
      rfl
    · exact absurd hp (halpha (hmode ▸ hs) hal before)

/-- Reading one more letter of a tag. -/
theorem letter (h : InComment m u s) {letters : List Char} (hsuffix : '<' :: letters <:+ u)
    (hp : s.pending = tagPending letters) (hc : c.isAlpha) :
    InComment m (u ++ [c]) ⟨s.mode, tagPending (letters ++ [c])⟩ := by
  have hdash : c ≠ '-' := fun hd => absurd hc (by rw [hd]; decide)
  have hnot : ¬(endsTagName c ∧ s.pending = .opening scriptName) := by simp [endsTagName_eq_false hc]
  refine ⟨h.mode_ne, h.doubleEscaped_concat hnot, ?_, ?_, ?_, fun hs more hmore hsuffix' => ?_⟩
  · rw [tagPending_concat, ← List.cons_append, ← List.cons_append, singleton_suffix_concat, eq_comm]
    simp [hdash]
  · rw [tagPending_concat, ← List.cons_append, ← List.cons_append, ← List.singleton_append, concat_suffix_concat, @eq_comm _ '-' c]
    simp [hdash]
  · exact Or.inr ⟨letters ++ [c], by rwa [← List.cons_append, concat_suffix_concat, and_iff_left rfl], rfl⟩
  · rcases h.letters_concat hs hmore hsuffix' with ⟨-, rfl⟩ | ⟨before, rfl, -, -, hp'⟩
    · exact absurd hc (by decide)
    · rw [tagPending_concat, tagPending_concat, map_toLower_eq_of_tagPending_eq (hp.symm.trans hp')]

/-- Reading the character after the name of a script's tag. -/
theorem scriptTag {name : List Char} (hsuffix : '<' :: name <:+ u) (hname : name.map Char.toLower = scriptName)
    (hc : endsTagName c) : InComment m (u ++ [c]) ⟨.doubleEscaped, .hyphens 0⟩ := by
  have hdash : c ≠ '-' := fun hd => absurd hc (by rw [hd]; decide)
  refine ⟨by simp, iff_of_true rfl (Or.inr ?_), ?_, ?_, Or.inl ⟨0, rfl⟩, by simp⟩
  · exact (holdsScriptTag_concat u c).2 (Or.inl ⟨⟨name, hsuffix, hname⟩, hc⟩)
  · rw [← List.cons_append, ← List.cons_append, singleton_suffix_concat, eq_comm]
    simp [hdash]
  · rw [← List.cons_append, ← List.cons_append, ← List.singleton_append, concat_suffix_concat, @eq_comm _ '-' c]
    simp [hdash]

/-- Reading a hyphen after a hyphen. -/
theorem twoHyphens (h : InComment m u s) {n : Nat} (hp : s.pending = .hyphens n) (hn : 0 < n) :
    InComment m (u ++ ['-']) ⟨s.mode, .hyphens 2⟩ := by
  have hnot : ¬(endsTagName '-' ∧ s.pending = .opening scriptName) := by simp [hp]
  refine ⟨h.mode_ne, h.doubleEscaped_concat hnot, ?_, ?_, Or.inl ⟨2, rfl⟩, fun hs letters hletters hsuffix => ?_⟩
  · rw [← List.cons_append, ← List.cons_append, singleton_suffix_concat]
    exact iff_of_true rfl ⟨2, by decide, rfl⟩
  · rw [← List.cons_append, ← List.cons_append, ← List.singleton_append, concat_suffix_concat]
    exact iff_of_true ⟨h.hyphen.2 ⟨n, hn, hp⟩, rfl⟩ rfl
  · rcases h.letters_concat hs hletters hsuffix with ⟨-, hc⟩ | ⟨_, -, hc, -⟩
    · exact absurd hc (by decide)
    · exact absurd hc (by decide)

/-- As long as the comment does not end, a reader stays in it. -/
theorem takeEscaped (h : InComment m u s) (hend : ¬['-', '-', '>'] <:+: '-' :: '-' :: (u ++ [c])) :
    InComment m (u ++ [c]) (s.takeEscaped c) := by
  rw [← List.cons_append, ← List.cons_append, commentEnd_infix_concat, h.hyphens] at hend
  obtain ⟨mode, pending⟩ := s
  rcases h.pending with ⟨n, rfl⟩ | ⟨letters, hsuffix, rfl⟩
  · rw [takeEscaped_hyphens]
    split_ifs with h1 h2
    · obtain ⟨rfl, -, hn⟩ := h1
      exact h.twoHyphens rfl hn
    · exact absurd (Or.inl ⟨congrArg _ h2.2, h2.1⟩) hend
    · refine h.resume (fun hc hdash => ?_) (by simp) fun _ _ letters hp => ?_
      · obtain ⟨k, hk, hp⟩ := h.hyphen.1 hdash
        cases hp
        exact h1 ⟨hc, h.mode_ne, hk⟩
      · unfold tagPending at hp
        split_ifs at hp
  · have hdash : c = '-' → ¬['-'] <:+ '-' :: '-' :: u := fun _ hsuff => by
      obtain ⟨k, -, hp⟩ := h.hyphen.1 hsuff
      dsimp only [tagPending] at hp
      split_ifs at hp
    by_cases hnil : letters = []
    · subst hnil
      rw [show tagPending [] = .bracket from rfl, takeEscaped_afterBracket]
      split_ifs with h1 h2
      · exact absurd h1.2 h.mode_ne
      · exact h.letter hsuffix rfl h2.1
      · exact h.resume hdash (by simp [tagPending]) fun hs hal => absurd ⟨hal, hs⟩ h2
    · rw [show tagPending letters = .opening (letters.map Char.toLower) from if_neg hnil] at h ⊢
      rw [takeEscaped_opening]
      split_ifs with h1 h2
      · exact scriptTag hsuffix h1.2 h1.1
      · simpa [tagPending] using h.letter hsuffix (if_neg hnil).symm h2
      · exact h.resume hdash (by simpa using h1) fun _ hal => absurd hal h2

/-- As long as the comment does not end, a reader stays in it. -/
theorem foldl (hm : m ≠ .data) (hend : ¬['-', '-', '>'] <:+: '-' :: '-' :: u) :
    InComment m u (u.foldl ScriptState.takeEscaped ⟨m, .hyphens 2⟩) := by
  induction u using List.reverseRecOn with
  | nil => exact inComment_nil hm
  | append_singleton u c ih =>
    rw [List.foldl_append]
    exact (ih fun h => hend (h.trans ⟨[], [c], rfl⟩)).takeEscaped hend

end InComment

/-! ## Reading a script from its start -/

/-- Where a reader of a whole script stands: in no comment, with what is being read of a comment opener, or in one that does not
end. -/
def InScript (cs : List Char) (s : ScriptState) : Prop :=
  (s.mode = .data ∧ match s.pending with
    | .hyphens n => n = 0
    | .bracket => ['<'] <:+ cs
    | .mark n => '<' :: '!' :: List.replicate n '-' <:+ cs ∧ n ≤ 1
    | _ => False) ∨
  ∃ a u, cs = a ++ '<' :: '!' :: '-' :: '-' :: u ∧ ¬['-', '-', '>'] <:+: '-' :: '-' :: u ∧
    s = u.foldl takeEscaped ⟨.escaped, .hyphens 2⟩

/-- In plain data. -/
theorem InScript.resume (cs : List Char) (c : Char) : InScript (cs ++ [c]) (resume .data c) := by
  refine Or.inl ?_
  unfold ScriptState.resume
  split_ifs with h1 h2
  · exact ⟨rfl, singleton_suffix_concat.2 h1.symm⟩
  · exact absurd rfl h2.2
  · exact ⟨rfl, rfl⟩

theorem InScript.takeEscaped {cs : List Char} {s : ScriptState} (h : InScript cs s) (c : Char) :
    InScript (cs ++ [c]) (s.takeEscaped c) := by
  rcases h with ⟨hs, hp⟩ | ⟨a, u, rfl, hend, rfl⟩
  · obtain ⟨mode, pending⟩ := s
    obtain rfl : mode = .data := hs
    cases pending with
    | hyphens n =>
      obtain rfl : n = 0 := hp
      simpa [takeEscaped_hyphens] using InScript.resume cs c
    | bracket =>
      rw [takeEscaped_afterBracket]
      split_ifs with h1 h2
      · exact Or.inl ⟨rfl, by simpa [h1.1] using concat_suffix_concat.2 ⟨hp, h1.1.symm⟩, by decide⟩
      · simp at h2
      · exact InScript.resume cs c
    | mark n =>
      rw [takeEscaped_mark]
      split_ifs with h1 h2
      · subst h1 h2
        exact Or.inl ⟨rfl, concat_suffix_concat.2 ⟨hp.1, rfl⟩, le_rfl⟩
      · obtain rfl : n = 1 := by have := hp.2; omega
        obtain ⟨a, rfl⟩ := hp.1
        exact Or.inr ⟨a, [], by simp [h1], by decide, rfl⟩
      · exact InScript.resume cs c
    | opening name => exact hp.elim
    | closing name => exact hp.elim
  · have hin := InComment.foldl (m := .escaped) (by simp) hend
    by_cases hend' : ['-', '-', '>'] <:+: '-' :: '-' :: (u ++ [c])
    · rw [← List.cons_append, ← List.cons_append, commentEnd_infix_concat, or_iff_left hend, hin.hyphens] at hend'
      obtain ⟨hp, rfl⟩ := hend'
      generalize u.foldl ScriptState.takeEscaped ⟨.escaped, .hyphens 2⟩ = s at hp
      obtain ⟨mode, pending⟩ := s
      obtain rfl : pending = .hyphens 2 := hp
      exact Or.inl ⟨rfl, rfl⟩
    · exact Or.inr ⟨a, u ++ [c], by simp, hend', by simp⟩

theorem inScript_foldl (cs : List Char) : InScript cs (cs.foldl ScriptState.takeEscaped {}) := by
  induction cs using List.reverseRecOn with
  | nil => exact Or.inl ⟨rfl, rfl⟩
  | append_singleton cs c ih =>
    rw [List.foldl_append]
    exact ih.takeEscaped c

/-- A comment opener leads into a comment, or is read in one. -/
theorem foldl_commentOpener (s : ScriptState) :
    ∃ m, m ≠ .data ∧ ['<', '!', '-', '-'].foldl ScriptState.takeEscaped s = ⟨m, .hyphens 2⟩ := by
  obtain ⟨mode, pending⟩ := s
  cases mode with
  | data => exact ⟨.escaped, by simp, by simp [takeEscaped_afterBracket, takeEscaped_mark]⟩
  | escaped => exact ⟨.escaped, by simp, by simp [takeEscaped_afterBracket, takeEscaped_hyphens, ScriptState.resume]⟩
  | doubleEscaped => exact ⟨.doubleEscaped, by simp, by simp [takeEscaped_afterBracket, takeEscaped_hyphens, ScriptState.resume]⟩

/-- A script is left in doubly escaped data exactly when its text says so. -/
theorem mode_foldl_takeEscaped (cs : List Char) :
    (cs.foldl ScriptState.takeEscaped {}).mode = .doubleEscaped ↔ LeavesScriptOpen cs := by
  constructor
  · intro hmode
    rcases inScript_foldl cs with ⟨hdata, -⟩ | ⟨a, u, hcs, hend, hs⟩
    · rw [hdata] at hmode
      contradiction
    · have hin := InComment.foldl (m := .escaped) (by simp) hend
      rw [hs, hin.doubleEscaped] at hmode
      exact ⟨a, u, hcs, hend, hmode.resolve_left (by simp)⟩
  · rintro ⟨a, u, rfl, hend, hheld⟩
    obtain ⟨m, hm, hopener⟩ := foldl_commentOpener (a.foldl ScriptState.takeEscaped {})
    have hfold : (a ++ '<' :: '!' :: '-' :: '-' :: u).foldl ScriptState.takeEscaped {} =
        u.foldl ScriptState.takeEscaped ⟨m, .hyphens 2⟩ := by
      rw [List.foldl_append, ← hopener]
      rfl
    rw [hfold, (InComment.foldl hm hend).doubleEscaped]
    exact Or.inr hheld

end ScriptState

/-! ## The end tag after a script -/

/-- Characters that are all taken leave the rest as it is. -/
theorem scriptTail?_append {cs : List Char} {s t : ScriptState} (h : cs.foldlM ScriptState.step? s = some t) (r : List Char) :
    scriptTail? s (cs ++ r) = scriptTail? t r := by
  induction cs generalizing s with
  | nil =>
    obtain rfl : s = t := by simpa using h
    rfl
  | cons c cs ih =>
    rw [List.foldlM_cons, Option.bind_eq_bind, Option.bind_eq_some_iff] at h
    obtain ⟨u, hu, hrest⟩ := h
    rw [List.cons_append, scriptTail?, hu]
    exact ih hrest

/-- The end tag of a script ends it, but in doubly escaped data it only leads back to escaped data. -/
theorem scriptTail?_endTag (s : ScriptState) (r : List Char) :
    scriptTail? s (printEnd "script" ++ r) = if s.mode = .doubleEscaped then scriptTail? ⟨.escaped, .hyphens 0⟩ r else some r := by
  rw [show printEnd "script" ++ r = '<' :: (['/', 's', 'c', 'r', 'i', 'p', 't', '>'] ++ r) from rfl, scriptTail?, s.step?_bracket]
  obtain ⟨mode, pending⟩ := s
  cases mode <;> rfl

/-- What comes after an escaped script is read as its text says. -/
theorem scriptTail?_escapeBody (cs r : List Char) :
    (¬LeavesScriptOpen cs → scriptTail? {} (escapeBody cs ++ printEnd "script" ++ r) = some r) ∧
      (LeavesScriptOpen cs →
        scriptTail? {} (escapeBody cs ++ printEnd "script" ++ r) = scriptTail? ⟨.escaped, .hyphens 0⟩ r) := by
  have hread := ScriptState.foldlM_escapeBody cs (s := {}) (by simp) (by simp)
  rw [List.append_assoc, scriptTail?_append hread, scriptTail?_endTag, ← ScriptState.mode_foldl_takeEscaped]
  exact ⟨fun h => if_neg h, fun h => if_pos h⟩

/-- A script after other elements. -/
theorem printAll_concat_script {l : Layout} (hl : l.escaped = true) (depth : Nat) (ns : List Node) (js : String) :
    printAll l depth (ns ++ [.body "script" js]) =
      printAll l depth ns ++ l.indent depth ++ "<script>".toList ++ (escapeBody js.toList ++ printEnd "script") ++ ['\n'] := by
  rw [printAll_append]
  simp [printAll, Node.print, printStart, Layout.body, hl]

end Markup

open Markup

namespace Form

/-! ## The script of a form -/

/-- What stands after the end tag of the author's script. -/
def afterScript (o : RenderOptions) : List Char :=
  if o.fullDocument then "\n</body>\n</html>\n".toList else ['\n']

/-- The author's script is the last element of a form. -/
theorem exists_nodes_eq {f : Form} {js : String} (hjs : f.customJs = some js) (hne : js ≠ "") (semantic : Bool) :
    ∃ ns, f.nodes semantic = ns ++ [.body "script" js] := by
  refine ⟨f.node semantic :: bodyNodes "style" f.customCss, ?_⟩
  rw [nodes, hjs]
  simp [bodyNodes, hne]

/-- The author's script in the markup of a form alone or of a page. -/
theorem exists_render_eq {o : RenderOptions} (ho : o.escape = true) {f : Form} {js : String} (hjs : f.customJs = some js)
    (hne : js ≠ "") :
    ∃ before, (f.render o).toList =
      before ++ "<script>".toList ++ (escapeBody js.toList ++ printEnd "script") ++ afterScript o := by
  obtain ⟨ns, hnodes⟩ := exists_nodes_eq hjs hne o.semantic
  have hl : o.layout.escaped = true := ho
  have hframe (name : String) (as : List Attribute) (lines : List Char) :
      frame o.layout [] name as lines = printStart o.layout name as ++ ['>', '\n'] ++ lines ++ (printEnd name ++ ['\n']) := by
    simp [frame]
  cases hfull : o.fullDocument with
  | true =>
    have hrender : (f.render o).toList = f.page o := by simp only [render, hfull, if_true, String.toList_ofList]
    have hafter : afterScript o = '\n' :: (printEnd "body" ++ ['\n'] ++ (printEnd "html" ++ ['\n'])) := by
      simp only [afterScript, hfull, if_true]
      rfl
    rw [hrender, hafter, page_eq, hnodes, ← List.append_assoc, printAll_concat_script hl, hframe "html", hframe "body"]
    generalize frame o.layout [] "head" [] _ = head, printStart o.layout "html" _ = htmlStart,
      printStart o.layout "body" _ = bodyStart, printAll o.layout 1 _ = elements
    exact ⟨doctype ++ '\n' :: (htmlStart ++ ['>', '\n'] ++ head ++ bodyStart ++ ['>', '\n'] ++ elements ++ o.layout.indent 1),
      by simp⟩
  | false =>
    refine ⟨printAll o.layout 0 ns ++ o.layout.indent 0, ?_⟩
    simp only [render, fragment, afterScript, hfull, Bool.false_eq_true, if_false, String.toList_ofList, hnodes,
      printAll_concat_script hl]

/-- The author's script, escaped, stands after its start tag and is followed by its end tag. It never ends before that tag. If it does
not leave itself open, it ends exactly there; if it does, it does not end at all. -/
theorem scriptTail?_render {o : RenderOptions} (ho : o.escape = true) {f : Form} {js : String} (hjs : f.customJs = some js)
    (hne : js ≠ "") :
    ∃ before, (f.render o).toList =
        before ++ "<script>".toList ++ (escapeBody js.toList ++ "</script>".toList ++ afterScript o) ∧
      (¬LeavesScriptOpen js.toList →
        scriptTail? {} (escapeBody js.toList ++ "</script>".toList ++ afterScript o) = some (afterScript o)) ∧
      (LeavesScriptOpen js.toList →
        scriptTail? {} (escapeBody js.toList ++ "</script>".toList ++ afterScript o) = none) := by
  obtain ⟨before, hrender⟩ := exists_render_eq ho hjs hne
  obtain ⟨hends, hopen⟩ := scriptTail?_escapeBody js.toList (afterScript o)
  have hend : "</script>".toList = printEnd "script" := rfl
  rw [hend]
  refine ⟨before, by rw [hrender, List.append_assoc], hends, fun h => (hopen h).trans ?_⟩
  -- No end tag of a script follows on the page.
  unfold afterScript
  split <;> rfl

/-- A script with a comment in which a script's tag starts, but the comment ends. -/
theorem scriptTail?_render_closed_comment :
    let f : Form := { customJs := some "<!--<script>x = '</script>'--> y" }
    let o : RenderOptions := { fullDocument := true }
    o.escape = true ∧ f.customJs = some "<!--<script>x = '</script>'--> y" ∧ "<!--<script>x = '</script>'--> y" ≠ "" ∧
      ∃ before, (f.render o).toList = before ++ "<script>".toList ++
        ("<!--<script>x = '<\\/script>'--> y".toList ++ "</script>".toList ++ "\n</body>\n</html>\n".toList) ∧
        scriptTail? {} ("<!--<script>x = '<\\/script>'--> y".toList ++ "</script>".toList ++ "\n</body>\n</html>\n".toList) =
          some "\n</body>\n</html>\n".toList := by
  intro f o
  have hne : "<!--<script>x = '</script>'--> y" ≠ "" := by decide
  have hclosed : ¬LeavesScriptOpen "<!--<script>x = '</script>'--> y".toList :=
    (ScriptState.mode_foldl_takeEscaped _).not.1 (by decide)
  obtain ⟨before, hrender, hends, -⟩ := scriptTail?_render (o := o) (f := f) rfl rfl hne
  exact ⟨rfl, rfl, hne, before, hrender, hends hclosed⟩

/-- A script that starts a comment and a script's tag in it: its own end tag does not end it, and nothing on the page does. -/
theorem scriptTail?_render_ends_false :
    let f : Form := { customJs := some "<!--<script>" }
    let rest := "<!--<script>".toList ++ "</script>".toList ++ ['\n']
    (∃ before, (f.render {}).toList = before ++ "<script>".toList ++ rest) ∧ scriptTail? {} rest = none ∧
      scriptTail? {} rest ≠ some ['\n'] := by
  intro f rest
  have hnone : scriptTail? {} rest = none := by decide
  obtain ⟨before, hrender⟩ := exists_render_eq (o := {}) rfl (f := f) rfl (by decide)
  exact ⟨⟨before, hrender.trans (List.append_assoc _ _ _)⟩, hnone, by simp [hnone]⟩

end Form

end Webform
