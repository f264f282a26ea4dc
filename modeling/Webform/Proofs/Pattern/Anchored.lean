import Webform.Pattern.Full
import Webform.Proofs.Pattern.Reading

/-!
# Patterns for whole texts

The pattern for whole texts is made by putting text around a pattern, and the reader sees only the text that comes out. A
pattern that is read by itself is read as the inside of the group it is put into unless it ends in a comment of verbose mode,
which then takes the closing parenthesis too (`EndsInComment`); and it is two levels deeper then. So a pattern that compiles is
in use for whole texts exactly when it is `Anchorable`, and otherwise checks nothing.
-/

namespace Webform.Pattern

/-- A comment is open at the end of a pattern, so that a closing parenthesis put there closes nothing and does no harm. -/
def EndsInComment (pattern : List Char) : Prop := ∃ e, read? (pattern ++ [')']) = some e

/-- How deep a pattern is nested; one that cannot be read to its end is flat. -/
def nesting (pattern : List Char) : Nat :=
  match Progress.run? (pattern.length + 1) {} pattern with
  | none => 0
  | some p => p.close.depth

/-- A pattern of which the meaning is `e` may be put between the signs for the start and the end of a text. -/
structure Anchorable (pattern : List Char) (e : Expr) : Prop where
  closed : ¬EndsInComment pattern
  deep : nesting pattern + 2 ≤ maxDepth
  fits : e.whole.fits = true

instance (pattern : List Char) : Decidable (EndsInComment pattern) :=
  decidable_of_iff ((read? (pattern ++ [')'])).isSome = true) Option.isSome_iff_exists

instance (pattern : List Char) (e : Expr) : Decidable (Anchorable pattern e) :=
  decidable_of_iff (¬EndsInComment pattern ∧ nesting pattern + 2 ≤ maxDepth ∧ e.whole.fits = true)
    ⟨fun ⟨hclosed, hdeep, hfits⟩ => ⟨hclosed, hdeep, hfits⟩, fun h => ⟨h.closed, h.deep, h.fits⟩⟩

variable {pattern : List Char} {e e' : Expr}

theorem compile?_eq_some_iff : compile? pattern = some e ↔ read? pattern = some e ∧ e.fits = true := by
  unfold compile?
  cases read? pattern with
  | none => simp
  | some e' =>
    simp only [Option.ite_none_right_eq_some, Option.some.injEq]
    constructor
    · rintro ⟨hfits, rfl⟩
      exact ⟨rfl, hfits⟩
    · rintro ⟨rfl, hfits⟩
      exact ⟨hfits, rfl⟩

/-- A pattern is read when the reader ends outside all groups, not too deep. -/
theorem read?_eq_some_iff : read? pattern = some e ↔ ∃ p, Progress.run? (pattern.length + 1) {} pattern = some p ∧
    p.scopes = [] ∧ p.close.depth ≤ maxDepth ∧ p.close.expr = e := by
  unfold read?
  cases Progress.run? (pattern.length + 1) {} pattern with
  | none => simp
  | some p => simp [Option.ite_none_right_eq_some, and_assoc]

/-- What is around the pattern while the pattern for whole texts is read. -/
def anchoredScope : Scope := ⟨[{ expr := .look .textStart }], [], {}, false⟩

theorem closes_parenthesis : Closes [')'] := ⟨⟨[], rfl⟩, by simp, by simp⟩

theorem closes_ending : Closes [')', '$'] := ⟨⟨['$'], rfl⟩, by simp, by simp⟩

/-- What is put before a pattern brings the reader to the pattern inside a group. -/
theorem run?_anchored (pattern : List Char) :
    Progress.run? ((anchored pattern).length + 1) {} (anchored pattern) =
      Progress.run? (pattern.length + 1 + 4) (Progress.inside {} [anchoredScope]) (pattern ++ [')', '$']) := by
  have hlength : (anchored pattern).length + 1 = pattern.length + 1 + 4 + 2 := by
    simp [anchored]
  rw [hlength]
  rfl

/-- Where the reader is when it has read the group around a pattern, `p` being where it was inside the group. -/
def Progress.anchoredBy (p : Progress) : Progress :=
  { p with scopes := [], branches := [], flags := {},
           items := [{ expr := .group false p.close.expr, depth := p.close.depth + 1 }, { expr := .look .textStart }] }

/-- What is put after a pattern ends the group, where it is read as such. -/
theorem run?_ending (n : Nat) {p : Progress} (h : p.scopes = []) :
    ∃ q, Progress.run? (n + 1 + 4) (p.inside [anchoredScope]) [')', '$'] = some q ∧ q.scopes = [] ∧
      q.close.depth = p.close.depth + 2 ∧ q.close.expr = p.close.expr.whole := by
  have hscopes : (p.inside [anchoredScope]).scopes = [anchoredScope] := by
    rw [Progress.inside, h]
    rfl
  have hleave : (p.inside [anchoredScope]).step? ')' ['$'] = some (p.anchoredBy, ['$']) := by
    simp only [Progress.step?, Progress.leave?, hscopes, Option.map_some]
    rfl
  refine ⟨p.anchoredBy.push (.look .textEnd) 0, ?_, rfl, ?_, rfl⟩
  · rw [Progress.run?, Progress.skip_of_closes _ closes_ending]
    simp only [hleave]
    rfl
  · have hdepth : (p.anchoredBy.push (.look .textEnd) 0).close.depth = max (max 1 (p.close.depth + 1 + 1)) 1 := rfl
    rw [hdepth]
    omega

/-- A pattern with a closing parenthesis after it is read like the pattern by itself, with a round more. -/
theorem run?_parenthesis (pattern : List Char) : Progress.run? ((pattern ++ [')']).length + 1) {} (pattern ++ [')']) =
    Progress.run? (pattern.length + 1 + 1) (Progress.inside {} []) (pattern ++ [')']) := by
  rw [List.length_append]
  rfl

theorem scopes_inside_nil {p : Progress} (h : p.scopes = []) : (p.inside []).scopes = [] := by
  rw [Progress.inside, h]
  rfl

section

variable {p : Progress} {m : Nat}

/-- Where the reader comes to it, a closing parenthesis after a pattern has nothing to close. -/
theorem not_endsInComment_of_leads (h : Progress.Leads (pattern.length + 1) {} pattern m p) (hscopes : p.scopes = []) :
    ¬EndsInComment pattern := by
  rintro ⟨e, he⟩
  obtain ⟨q, hq, -⟩ := read?_eq_some_iff.1 he
  rw [run?_parenthesis, h [] _ 1 closes_parenthesis, Progress.run?, Progress.skip_of_closes _ closes_parenthesis] at hq
  simp only [Progress.step?, Progress.leave?, scopes_inside_nil hscopes, Option.map_none] at hq
  cases hq

/-- Where the reader comes to what is put after a pattern, the pattern for whole texts is two levels deeper. -/
theorem read?_anchored_of_leads (h : Progress.Leads (pattern.length + 1) {} pattern m p) (hscopes : p.scopes = []) :
    read? (anchored pattern) = some e ↔ p.close.depth + 2 ≤ maxDepth ∧ p.close.expr.whole = e := by
  obtain ⟨q, hq, hqscopes, hqdepth, hqexpr⟩ := run?_ending m hscopes
  rw [read?_eq_some_iff, run?_anchored, h [anchoredScope] _ 4 closes_ending, hq]
  constructor
  · rintro ⟨q', heq, -, hle, rfl⟩
    cases heq
    exact ⟨hqdepth ▸ hle, hqexpr.symm⟩
  · rintro ⟨hle, rfl⟩
    exact ⟨q, rfl, hqscopes, hqdepth ▸ hle, hqexpr⟩

theorem endsInComment_of_ends (h : Progress.Ends (pattern.length + 1) {} pattern p) (hscopes : p.scopes = [])
    (hdepth : p.close.depth ≤ maxDepth) : EndsInComment pattern := by
  refine ⟨p.close.expr, ?_⟩
  rw [read?_eq_some_iff, run?_parenthesis, h [] _ 1 closes_parenthesis]
  exact ⟨_, rfl, scopes_inside_nil hscopes, hdepth, rfl⟩

/-- Where what is put after a pattern is in a comment, the group around the pattern has no end. -/
theorem read?_anchored_of_ends (h : Progress.Ends (pattern.length + 1) {} pattern p) : read? (anchored pattern) = none := by
  rw [← Option.not_isSome_iff_eq_none, Option.isSome_iff_exists]
  rintro ⟨e, he⟩
  obtain ⟨q, hq, hqscopes, -⟩ := read?_eq_some_iff.1 he
  rw [run?_anchored, h [anchoredScope] _ 4 closes_ending] at hq
  cases hq
  simp [Progress.inside] at hqscopes

end

/-- A pattern that is read by itself is read in the pattern for whole texts too, two levels deeper, or it ends in a comment. -/
theorem read?_anchored (h : read? pattern = some e) :
    (¬EndsInComment pattern ∧ ∀ e', read? (anchored pattern) = some e' ↔ nesting pattern + 2 ≤ maxDepth ∧ e.whole = e') ∨
      (EndsInComment pattern ∧ OpensComment pattern ∧ read? (anchored pattern) = none) := by
  obtain ⟨p, hrun, hscopes, hdepth, rfl⟩ := read?_eq_some_iff.1 h
  have hnesting : nesting pattern = p.close.depth := by
    rw [nesting, hrun]
  rcases Progress.run?_append hrun with ⟨m, hleads⟩ | ⟨hopens, hends⟩
  · refine Or.inl ⟨not_endsInComment_of_leads hleads hscopes, fun e' => ?_⟩
    rw [hnesting]
    exact read?_anchored_of_leads hleads hscopes
  · exact Or.inr ⟨endsInComment_of_ends hends hscopes hdepth, hopens, read?_anchored_of_ends hends⟩

/-- In a pattern that ends in a comment a number sign stands, and no line break after it. -/
theorem EndsInComment.opensComment (hcomment : EndsInComment pattern) (h : read? pattern = some e) : OpensComment pattern := by
  rcases read?_anchored h with ⟨hclosed, -⟩ | ⟨-, hopens, -⟩
  · exact absurd hcomment hclosed
  · exact hopens

example : EndsInComment "(?x)a # comment".toList := by decide +kernel

example : ¬EndsInComment "(?x)a # comment\n".toList := by decide +kernel

/-- Without a number sign a pattern is anchorable if it is not too deep and not too large for it. -/
theorem anchorable_iff_of_not_mem (h : read? pattern = some e) (hmark : '#' ∉ pattern) :
    Anchorable pattern e ↔ nesting pattern + 2 ≤ maxDepth ∧ e.whole.fits = true := by
  have hclosed : ¬EndsInComment pattern := by
    intro hcomment
    obtain ⟨before, comment, heq, -⟩ := hcomment.opensComment h
    rw [heq] at hmark
    exact hmark (List.mem_append_right _ (.head _))
  constructor
  · exact fun hanchorable => ⟨hanchorable.deep, hanchorable.fits⟩
  · exact fun ⟨hdeep, hfits⟩ => ⟨hclosed, hdeep, hfits⟩

/-- A pattern that compiles is compiled for whole texts exactly when it is anchorable, and then asks for a match of the whole
text. -/
theorem compileFull?_eq_some_iff (h : compile? pattern = some e) :
    compileFull? pattern = some e' ↔ Anchorable pattern e ∧ e' = e.whole := by
  have hfull : compileFull? pattern = compile? (anchored pattern) := by
    rw [compileFull?, h]
  rw [hfull, compile?_eq_some_iff]
  rcases read?_anchored (compile?_eq_some_iff.1 h).1 with ⟨hclosed, hread⟩ | ⟨hcomment, -, hread⟩
  · rw [hread]
    constructor
    · rintro ⟨⟨hdeep, rfl⟩, hfits⟩
      exact ⟨⟨hclosed, hdeep, hfits⟩, rfl⟩
    · rintro ⟨hanchorable, rfl⟩
      exact ⟨⟨hanchorable.deep, rfl⟩, hanchorable.fits⟩
  · rw [hread]
    constructor
    · rintro ⟨hnone, -⟩
      cases hnone
    · rintro ⟨hanchorable, -⟩
      exact absurd hcomment hanchorable.closed

theorem isSome_compileFull?_iff (h : compile? pattern = some e) :
    (compileFull? pattern).isSome = true ↔ Anchorable pattern e := by
  rw [Option.isSome_iff_exists]
  constructor
  · rintro ⟨e', he'⟩
    exact ((compileFull?_eq_some_iff h).1 he').1
  · exact fun hanchorable => ⟨e.whole, (compileFull?_eq_some_iff h).2 ⟨hanchorable, rfl⟩⟩

/-- A text that passes an anchorable pattern is matched by it from start to end. -/
theorem matches_of_passes {p t : String} (h : compile? p.toList = some e) (hanchorable : Anchorable p.toList e)
    (hpasses : passes p t = true) : e.Matches t.toList 0 t.toList.length := by
  rw [passes, (compileFull?_eq_some_iff h).2 ⟨hanchorable, rfl⟩] at hpasses
  have hbounded := bounded_of_read? (compile?_eq_some_iff.1 h).1
  have hwhole : e.whole.Bounded := ⟨trivial, hbounded, trivial⟩
  obtain ⟨i, j, hi, hmatch⟩ := exists_matches_of_search hwhole hpasses
  exact hmatch.of_whole hi

/-- Every text passes a pattern that is not anchorable. -/
theorem passes_of_not_anchorable {p : String} (h : compile? p.toList = some e) (hnot : ¬Anchorable p.toList e) (t : String) :
    passes p t = true := by
  have hnone : compileFull? p.toList = none := by
    rw [← Option.not_isSome_iff_eq_none, isSome_compileFull?_iff h]
    exact hnot
  rw [passes, hnone]

end Webform.Pattern
