import Webform.Proofs.Pattern.Anchored
import Webform.Proofs.Validation.Decision

/-!
# Patterns that are enforced

Where a pattern compiles, a text that it does not match from start to end should be rejected. It is when the pattern is
anchorable; when it is not, the field is checked as if it had no pattern (`Pattern.isEnforced_iff`).
-/

namespace Webform

open Json

/-! ## Patterns that check nothing -/

/-- The field without its pattern. -/
def Field.withoutPattern (f : Field) : Field := { f with rules := { f.rules with pattern := none } }

namespace Field

variable (f : Field)

@[simp] theorem withoutPattern_name : f.withoutPattern.name = f.name := rfl

@[simp] theorem withoutPattern_kind : f.withoutPattern.kind = f.kind := rfl

@[simp] theorem withoutPattern_isRequired : f.withoutPattern.isRequired = f.isRequired := rfl

@[simp] theorem withoutPattern_displayName : f.withoutPattern.displayName = f.displayName := rfl

end Field

/-- What the rules report is the same without a pattern that the text passes. -/
theorem Rules.report_of_passes {r : Rules} {p t : String} (hp : r.pattern = some p) (h : Pattern.passes p t = true)
    (name : String) :
    { r with pattern := none }.report ({ r with pattern := none }.problems name t) = r.report (r.problems name t) := by
  have hproblems : { r with pattern := none }.problems name t = r.problems name t := by
    simp [problems, hp, h]
  rw [hproblems]
  rfl

/-- A pattern that every text passes makes no difference. -/
theorem Field.errors_withoutPattern {f : Field} {p : String} (hp : f.rules.pattern = some p) (h : ∀ t, Pattern.passes p t = true)
    (enforce : Bool) (s : Submission) : f.withoutPattern.errors enforce s = f.errors enforce s := by
  have hfull : f.rules.isEmpty = false := by
    simp [Rules.isEmpty, hp]
  have hreport : ∀ t, f.withoutPattern.rules.report (f.withoutPattern.rules.problems f.displayName t) =
      f.rules.report (f.rules.problems f.displayName t) := fun t => Rules.report_of_passes hp (h t) f.displayName
  simp only [errors, withoutPattern_name, withoutPattern_kind, withoutPattern_isRequired, withoutPattern_displayName, hfull,
    hreport, Bool.or_false]
  cases hempty : f.withoutPattern.rules.isEmpty with
  | false =>
    rw [Bool.or_false]
    rfl
  | true =>
    -- Without the pattern there are no rules left, and so the report was empty with it.
    have hnil : ∀ t, f.rules.report (f.rules.problems f.displayName t) = [] := by
      intro t
      rw [← hreport t, Rules.report_eq_nil_iff, Rules.problems_eq_nil_iff]
      exact Rules.allows_of_isEmpty hempty t
    simp only [hnil, Bool.or_true, if_true]
    cases s.text? f.name with
    | none =>
      simp only [ite_self]
      rfl
    | some t =>
      simp only [ite_self]
      rfl

/-! ## Patterns that are enforced -/

namespace Pattern

/-- Wherever a field for free text has the pattern, a submission is rejected in which the text of the field's value is not
matched from start to end by what the pattern means. -/
def IsEnforced (p : String) (e : Expr) : Prop :=
  ∀ (f : Form) (c : Container) (g : Field) (s : Submission) (v : Value) (t : String), c ∈ f.containers → g ∈ c.fields →
    g.kind = .text ∨ g.kind = .email ∨ g.kind = .textarea → g.rules.pattern = some p → s.get? g.name = some v → TextForm v t →
    ¬e.Matches t.toList 0 t.toList.length → (f.validate true s).success = false

variable {p : String} {e : Expr}

theorem isEnforced_of_anchorable (hne : p ≠ "") (h : compile? p.toList = some e) (hanchorable : Anchorable p.toList e) :
    IsEnforced p e := by
  intro f c g s v t hc hg hkind hpattern hv htext hmismatch
  rw [← Bool.not_eq_true, f.validate_success_iff, f.errors_eq_nil_iff]
  intro hall
  have hallows := (hall c hc g hg).allowed rfl hkind v t hv htext
  have hpasses : passes p t = true := (Rules.passes_eq_true_iff p t).2 (hallows.fits p hpattern hne)
  exact hmismatch (matches_of_passes h hanchorable hpasses)

/-- A form with one field, which has a pattern and asks for nothing else. -/
def loneForm (p : String) : Form := { containers := [{ fields := [{ name := "value", rules := { pattern := some p } }] }] }

/-- What is submitted for that form. -/
def loneSubmission (v : Value) : Submission := .ofList [("value", v)]

/-- A form with a pattern that every text passes accepts everything. -/
theorem validate_loneForm (h : ∀ t, passes p t = true) (v : Value) :
    ((loneForm p).validate true (loneSubmission v)).success = true := by
  rw [Form.validate_success_iff, Form.errors_eq_nil_iff]
  intro c hc g hg
  cases hc with
  | tail _ hc => cases hc
  | head =>
    cases hg with
    | tail _ hg => cases hg
    | head =>
      refine ⟨nofun, fun _ _ _ t _ _ => ⟨nofun, nofun, fun q hq _ => ?_⟩⟩
      cases hq
      exact (Rules.passes_eq_true_iff p t).1 (h t)

/-- A pattern that compiles is used for whole texts exactly when it is anchorable. It is enforced then, and otherwise only if
there is no text to reject; a field is checked as if it had no pattern when the pattern is not anchorable. -/
theorem isEnforced_iff (hne : p ≠ "") (h : compile? p.toList = some e) :
    ((compileFull? p.toList).isSome = true ↔ Anchorable p.toList e) ∧
      (IsEnforced p e ↔ Anchorable p.toList e ∨ ∀ v t, TextForm v t → e.Matches t.toList 0 t.toList.length) ∧
      (¬Anchorable p.toList e → ∀ (g : Field) (enforce : Bool) (s : Submission), g.rules.pattern = some p →
        g.errors enforce s = g.withoutPattern.errors enforce s) := by
  refine ⟨isSome_compileFull?_iff h, ⟨fun henforced => ?_, fun hor => ?_⟩, fun hnot g enforce s hp => ?_⟩
  · by_cases hanchorable : Anchorable p.toList e
    · exact Or.inl hanchorable
    · refine Or.inr fun v t htext => ?_
      by_cases hmatch : e.Matches t.toList 0 t.toList.length
      · exact hmatch
      · have hrejected := henforced (loneForm p) _ _ (loneSubmission v) v t (.head _) (.head _) (Or.inl rfl) rfl rfl htext hmatch
        rw [validate_loneForm (passes_of_not_anchorable h hanchorable) v] at hrejected
        cases hrejected
  · rcases hor with hanchorable | hall
    · exact isEnforced_of_anchorable hne h hanchorable
    · exact fun _ _ _ _ v t _ _ _ _ _ htext hmismatch => absurd (hall v t htext) hmismatch
  · exact (Field.errors_withoutPattern hp (passes_of_not_anchorable h hnot) enforce s).symm

theorem isEnforced_alternatives : "a|b" ≠ "" ∧ ∃ e, compile? "a|b".toList = some e ∧ IsEnforced "a|b" e := by
  have hcompile : compile? "a|b".toList = some (.alt (.one ⟨[(0x61, 0x61)]⟩) (.one ⟨[(0x62, 0x62)]⟩)) := by decide +kernel
  have hanchorable : Anchorable "a|b".toList (.alt (.one ⟨[(0x61, 0x61)]⟩) (.one ⟨[(0x62, 0x62)]⟩)) := by decide +kernel
  obtain ⟨-, henforced, -⟩ := isEnforced_iff (by decide) hcompile
  exact ⟨by decide, _, hcompile, henforced.2 (Or.inl hanchorable)⟩

/-- A pattern that compiles may check nothing: here the last parenthesis of the pattern for whole texts is part of a comment. -/
theorem isEnforced_of_compile_false : ∃ e, compile? "(?x)a # comment".toList = some e ∧
    compileFull? "(?x)a # comment".toList = none ∧ ¬e.Matches ['b'] 0 1 ∧
    ((loneForm "(?x)a # comment").validate true (loneSubmission (.string "b"))).success = true ∧
    ¬IsEnforced "(?x)a # comment" e := by
  have hcompile : compile? "(?x)a # comment".toList = some (.seq .empty (.one ⟨[(0x61, 0x61)]⟩)) := by decide +kernel
  have hfull : compileFull? "(?x)a # comment".toList = none := by decide +kernel
  have hmismatch : ¬Expr.Matches ['b'] (.seq .empty (.one ⟨[(0x61, 0x61)]⟩)) 0 1 := by
    intro h
    cases h with
    | seq _ _ _ _ _ hflags hletter =>
      cases hflags
      cases hletter with
      | one _ _ c hc hset =>
        cases hc
        exact absurd hset (by decide)
  have haccepted : ((loneForm "(?x)a # comment").validate true (loneSubmission (.string "b"))).success = true :=
    validate_loneForm (fun t => by rw [passes, hfull]) _
  refine ⟨_, hcompile, hfull, hmismatch, haccepted, fun henforced => ?_⟩
  have htext : TextForm (.string "b") "b" := .string "b" ⟨'b', by decide, by decide⟩
  have hrejected := henforced (loneForm "(?x)a # comment") _ _ (loneSubmission (.string "b")) _ _ (.head _) (.head _)
    (Or.inl rfl) rfl rfl htext hmismatch
  rw [haccepted] at hrejected
  cases hrejected

end Pattern

end Webform
