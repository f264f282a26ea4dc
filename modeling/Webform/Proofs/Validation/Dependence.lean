import Mathlib.Data.List.Forall2
import Webform.Proofs.Validation.Decision

/-!
# What validation depends on

What is said about a submission depends on the checked parts of the form's own fields, in order, and on the values under their
names, and on nothing else. Two runs are compared: on forms whose fields are `Alike`, and on submissions that agree on the names.
-/

namespace Webform

open Json

/-- Two fields are alike for the validator: messages call them the same, their values are looked up under the same name, and the
same is asked of these. -/
structure Field.Alike (f g : Field) : Prop where
  name : f.name = g.name
  displayName : f.displayName = g.displayName
  textual : f.kind.isTextual = g.kind.isTextual
  required : f.isRequired = g.isRequired
  rules : f.rules = g.rules

namespace Submission

variable {s t : Submission} {name : String}

theorem isBlank_congr (h : s.get? name = t.get? name) : s.isBlank name = t.isBlank name := by
  rw [isBlank, isBlank, h]

theorem text?_congr (h : s.get? name = t.get? name) : s.text? name = t.text? name := by
  rw [text?, text?, h]

end Submission

/-- Alike fields have the same to say about submissions that agree on their name. -/
theorem Field.Alike.errors_eq {f g : Field} (h : f.Alike g) {s t : Submission} (hvalue : s.get? f.name = t.get? f.name)
    (enforce : Bool) : f.errors enforce s = g.errors enforce t := by
  have hblank := Submission.isBlank_congr hvalue
  have htext := Submission.text?_congr hvalue
  rw [h.name] at hblank htext
  simp only [errors, h.name, h.displayName, h.textual, h.required, h.rules, hblank, htext]

/-- Lists of alike fields have the same to say, field by field. -/
theorem flatMap_errors_eq {fs gs : List Field} (h : List.Forall₂ Field.Alike fs gs) {s t : Submission}
    (hvalues : ∀ f ∈ fs, s.get? f.name = t.get? f.name) (enforce : Bool) :
    fs.flatMap (·.errors enforce s) = gs.flatMap (·.errors enforce t) := by
  induction h with
  | nil => rfl
  | @cons f g fs gs hfg _ ih =>
    rw [List.flatMap_cons, List.flatMap_cons, hfg.errors_eq (hvalues f List.mem_cons_self),
      ih fun a ha => hvalues a (List.mem_cons_of_mem f ha)]

namespace Form

theorem errors_validate (enforce : Bool) (f : Form) (s : Submission) : (f.validate enforce s).errors = f.errors enforce s := by
  unfold validate
  split
  · rename_i h
    rw [h]
    rfl
  · rfl

/-- Whether a submission is accepted shows in what is said about it. -/
theorem success_validate (enforce : Bool) (f : Form) (s : Submission) :
    (f.validate enforce s).success = (f.validate enforce s).errors.isEmpty := by
  rw [errors_validate, Bool.eq_iff_iff, validate_success_iff, List.isEmpty_iff]

/-- Two forms give the same answer and the same messages if the fields of their own containers are alike position by position and the
submissions agree on the names of the fields. The messages of a form are those of its first containers and then those of the others. -/
theorem validate_congr (enforce : Bool) :
    (∀ (f g : Form) (s t : Submission),
      List.Forall₂ Field.Alike (f.containers.flatMap (·.fields)) (g.containers.flatMap (·.fields)) →
      (∀ c ∈ f.containers, ∀ a ∈ c.fields, s.get? a.name = t.get? a.name) →
        (f.validate enforce s).success = (g.validate enforce t).success ∧
          (f.validate enforce s).errors = (g.validate enforce t).errors) ∧
      ∀ (f a b : Form) (s : Submission), f.containers = a.containers ++ b.containers →
        (f.validate enforce s).errors = (a.validate enforce s).errors ++ (b.validate enforce s).errors := by
  refine ⟨fun f g s t hfields hvalues => ?_, fun f a b s hcontainers => ?_⟩
  · have herrors : (f.validate enforce s).errors = (g.validate enforce t).errors := by
      rw [errors_validate, errors_validate]
      refine flatMap_errors_eq hfields (fun a ha => ?_) enforce
      obtain ⟨c, hc, ha⟩ := mem_fields.1 ha
      exact hvalues c hc a ha
    refine ⟨?_, herrors⟩
    rw [success_validate, success_validate, herrors]
  · simp only [errors_validate, errors, fields, hcontainers, List.flatMap_append]

/-- A form of two containers, and one with the same two fields in one container, with another kind, a label in place of a blank one
and a step; a submission with its names in another order and one more. -/
theorem validate_congr_regrouped :
    let a : Field := { name := "a", isRequired := true }
    let b : Field := { name := "b", kind := .email, rules := { minLength := some 3 } }
    let f : Form := { containers := [{ fields := [a] }, { kind := .group, fields := [b] }] }
    let g : Form := {
      isMultiStep := true
      steps := [{}]
      containers := [{ fields := [{ a with label := "a", tooltip := "t" }, { b with kind := .textarea, logic := some .null }] }] }
    let s : Submission := .ofList [("b", .string "xy"), ("a", .bool false)]
    let t : Submission := .ofList [("a", .bool false), ("z", .null), ("b", .string "xy")]
    List.Forall₂ Field.Alike (f.containers.flatMap (·.fields)) (g.containers.flatMap (·.fields)) ∧
      (∀ c ∈ f.containers, ∀ a ∈ c.fields, s.get? a.name = t.get? a.name) ∧
      (f.validate true s).errors = (g.validate true t).errors ∧
      (f.validate true s).errors = (validate true { f with containers := [{ fields := [a] }] } s).errors ++
        (validate true { f with containers := [{ kind := .group, fields := [b] }] } s).errors := by
  intro a b f g s t
  have hfields : List.Forall₂ Field.Alike (f.containers.flatMap (·.fields)) (g.containers.flatMap (·.fields)) := by
    refine .cons ⟨rfl, ?_, rfl, rfl, rfl⟩ (.cons ⟨rfl, rfl, rfl, rfl, rfl⟩ .nil)
    simp only [a]
    decide +kernel
  have hvalues : ∀ c ∈ f.containers, ∀ a ∈ c.fields, s.get? a.name = t.get? a.name :=
    List.forall_mem_cons.2 ⟨List.forall_mem_singleton.2 rfl, List.forall_mem_singleton.2 (List.forall_mem_singleton.2 rfl)⟩
  exact ⟨hfields, hvalues, ((validate_congr true).1 f g s t hfields hvalues).2, (validate_congr true).2 f _ _ s rfl⟩

end Form

end Webform
