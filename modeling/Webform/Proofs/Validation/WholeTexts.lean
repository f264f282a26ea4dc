import Webform.Proofs.Pattern.Complete
import Webform.Proofs.Validation.Patterns

/-!
# Patterns decide on whole texts

A pattern that is in use for whole texts passes exactly the texts that it matches from start to end, by any of its matches and not
only by the one that a search would prefer. A pattern that does not compile by itself is not in use, even if something else comes
out of it between the signs for the start and the end of the text (`Pattern.compileFull?_decides`).
-/

namespace Webform.Pattern

variable {p : String} {e e' : Expr}

/-- Between the signs for the start and the end of a text a pattern means itself, for whole texts. -/
theorem eq_whole_of_compile?_anchored (h : compile? p.toList = some e) (hanchored : compile? (anchored p.toList) = some e') :
    compileFull? p.toList = some e' ∧ e' = e.whole := by
  have hfull : compileFull? p.toList = some e' := by
    rw [compileFull?, h]
    exact hanchored
  exact ⟨hfull, ((compileFull?_eq_some_iff h).1 hfull).2⟩

theorem compileFull?_eq_none_of_compile? (h : compile? p.toList = none) : compileFull? p.toList = none := by
  rw [compileFull?, h]

theorem passes_of_compile?_eq_none (h : compile? p.toList = none) (t : String) : passes p t = true := by
  rw [passes, compileFull?_eq_none_of_compile? h]

/-- A pattern that compiles by itself and for whole texts passes exactly the texts that one of its matches spans. A pattern that
does not compile by itself is not used for whole texts, and a field is checked as if it had no pattern. -/
theorem compileFull?_decides (p : String) :
    (∀ e e', compile? p.toList = some e → compile? (anchored p.toList) = some e' → compileFull? p.toList = some e' ∧
      ∀ t : String, (e'.search t.toList = true ↔ e.Matches t.toList 0 t.toList.length) ∧ passes p t = e'.search t.toList) ∧
    (compile? p.toList = none → compileFull? p.toList = none ∧
      ∀ (g : Field) (enforce : Bool) (s : Submission), g.rules.pattern = some p →
        g.errors enforce s = g.withoutPattern.errors enforce s) := by
  refine ⟨fun e e' h hanchored => ?_, fun h => ?_⟩
  · obtain ⟨hfull, rfl⟩ := eq_whole_of_compile?_anchored h hanchored
    have hbounded := bounded_of_read? (compile?_eq_some_iff.1 h).1
    refine ⟨hfull, fun t => ⟨search_whole_iff hbounded t.toList, ?_⟩⟩
    rw [passes, hfull]
  · refine ⟨compileFull?_eq_none_of_compile? h, fun g enforce s hp => ?_⟩
    exact (Field.errors_withoutPattern hp (passes_of_compile?_eq_none h) enforce s).symm

/-- The second alternative of `a|ab` spans the text `ab`, where a search prefers the first; `a)(b` is no pattern, although one comes
out of it between the signs for the start and the end of the text. -/
theorem compileFull?_decides_alternatives :
    (∃ e e', compile? "a|ab".toList = some e ∧ compile? (anchored "a|ab".toList) = some e' ∧
      e.Matches ['a', 'b'] 0 2 ∧ ¬e.Matches ['a', 'b', 'b'] 0 3 ∧ passes "a|ab" "ab" = true ∧ passes "a|ab" "abb" = false) ∧
    compile? "a)(b".toList = none ∧ (compile? (anchored "a)(b".toList)).isSome = true ∧ compileFull? "a)(b".toList = none ∧
    ∀ g ∈ ((loneForm "a)(b").containers.flatMap Container.fields), g.rules.pattern = some "a)(b" ∧
      g.errors true (loneSubmission (.string "x")) = g.withoutPattern.errors true (loneSubmission (.string "x")) := by
  have hcompile : compile? "a|ab".toList =
      some (.alt (.one ⟨[(0x61, 0x61)]⟩) (.seq (.one ⟨[(0x61, 0x61)]⟩) (.one ⟨[(0x62, 0x62)]⟩))) := by decide +kernel
  have hanchored : compile? (anchored "a|ab".toList) =
      some (Expr.whole (.alt (.one ⟨[(0x61, 0x61)]⟩) (.seq (.one ⟨[(0x61, 0x61)]⟩) (.one ⟨[(0x62, 0x62)]⟩)))) := by decide +kernel
  have hnone : compile? "a)(b".toList = none := by decide +kernel
  obtain ⟨-, hdecides⟩ := (compileFull?_decides "a|ab").1 _ _ hcompile hanchored
  obtain ⟨hab, hpasses⟩ := hdecides "ab"
  obtain ⟨habb, hfails⟩ := hdecides "abb"
  obtain ⟨hfull, hfield⟩ := (compileFull?_decides "a)(b").2 hnone
  refine ⟨⟨_, _, hcompile, hanchored, hab.1 (by decide +kernel), fun h => ?_, hpasses.trans (by decide +kernel),
    hfails.trans (by decide +kernel)⟩, hnone, by decide +kernel, hfull, fun g hg => ?_⟩
  · exact absurd (habb.2 h) (by decide +kernel)
  · cases hg with
    | tail _ hg => cases hg
    | head => exact ⟨rfl, hfield _ true _ rfl⟩

end Webform.Pattern
