import Webform.Proofs.Command.Atomic
import Webform.Proofs.Command.Flags
import Webform.Proofs.Form.Steps
import Webform.Proofs.Validation.OutcomeText

/-!
# Answers of the command

The exit code and the output of the command say what the library says: the outcome that is printed is read back as the outcome of the
validation, and the lines that are printed are the violations of the form in order (`runLine_mirrors`).
-/

namespace Webform

/-- What is said of a violation stands on one line. -/
theorem Violation.lineBreak_not_mem_message (v : Violation) : '\n' ∉ v.message.toList := by
  have hidentifier (i : Identifier) : '\n' ∉ i.toString.toList := fun h => by
    have hne : ∀ c ∈ i.toString.toList, c ≠ '\n' := i.forall_mem_toString (by decide) (by decide)
    exact hne '\n' h rfl
  cases v with
  | noSteps => decide
  | unassigned i | shared i =>
    simp only [message, String.toList_append, List.mem_append, not_or]
    exact ⟨⟨by decide, hidentifier i⟩, by decide⟩

namespace Form

/-- A submission is carried by its outcome when it is accepted, and not otherwise. -/
theorem validate_data {enforce : Bool} {f : Form} {s : Submission} :
    (f.validate enforce s).data = if (f.validate enforce s).success then some s else none := by
  unfold validate
  split <;> rfl

end Form

namespace Command

theorem exitCode_eq_zero_iff (b : Bool) : (if b then (0 : UInt8) else 1) = 0 ↔ b = true := by
  cases b <;> decide

/-- The outcome that is printed is read back. -/
theorem ofText_outcomeText {enforce : Bool} {f : Form} {s : Submission} (hexact : ∀ m ∈ s.toList, m.2.Exact)
    (hdepth : (Json.Value.object s.toList).depth ≤ 126) :
    Outcome.record.codec.ofText (outcomeText (f.validate enforce s)) = .ok (f.validate enforce s) := by
  have hcarried : ∀ t, (f.validate enforce s).data = some t → t = s := by
    intro t ht
    rw [Form.validate_data] at ht
    split at ht
    · exact (Option.some.inj ht).symm
    · cases ht
  have hbreak : ∀ c ∈ "\n".toList, Json.isSpace c = true := by
    intro c hc
    have hc : c ∈ ['\n'] := hc
    rw [List.mem_singleton.1 hc]
    rfl
  refine Outcome.ofText_pretty (fun t ht => ?_) (fun t ht => ?_) hbreak
  · rw [hcarried t ht]
    exact hexact
  · rw [hcarried t ht]
    exact hdepth

/-- The command answers as the library does. A validation ends with the exit code 0 exactly when the submission is accepted, by the
rules of the fields too unless the command line says otherwise; what it prints is read back as the outcome, if the numbers of the
submission are integers of 64 bits and it leaves room for one more bracket. A check ends with the exit code 0 exactly when the form
passes it, and otherwise prints its violations in order, each on a line. -/
theorem runLine_mirrors {fs : Files} {arguments : List String} {path text : String} {f : Form} (hread : fs.read path = .ok text)
    (hform : Form.ofText text = .ok f) :
    (∀ submission enforce data s, Request.ofArguments? arguments = some (.validate path submission enforce) →
      fs.read submission = .ok data → Submission.ofText data = .ok s →
      (enforce = false ↔ "--required-only" ∈ arguments.takeWhile (· ≠ "--")) ∧
      (runLine fs arguments).1.error = none ∧
      ((runLine fs arguments).1.code = 0 ↔ (f.validate enforce s).success = true) ∧
      ((f.validate enforce s).success = true → (f.validate enforce s).data = some s) ∧
      ((∀ m ∈ s.toList, m.2.Integral) → (Json.Value.object s.toList).depth ≤ 126 →
        Outcome.record.codec.ofText (runLine fs arguments).1.output = .ok (f.validate enforce s))) ∧
    (Request.ofArguments? arguments = some (.check path) →
      (runLine fs arguments).1.error = none ∧
      ((runLine fs arguments).1.code = 0 ↔ f.check = .ok ()) ∧
      ∀ v, f.check = .error v →
        (runLine fs arguments).1.output = String.join (f.violations.map fun w => path ++ ": " ++ w.message ++ "\n") ∧
        (∀ w ∈ f.violations, '\n' ∉ w.message.toList) ∧ ∃ vs, f.violations = v :: vs) := by
  have hf : loadForm fs path = .ok f := loadForm_eq_ok_iff.2 ⟨text, hread, hform⟩
  refine ⟨fun submission enforce data s hrequest hdata hsubmission => ?_, fun hrequest => ?_⟩
  · have hs : loadSubmission fs submission = .ok s := loadSubmission_eq_ok_iff.2 ⟨data, hdata, hsubmission⟩
    have hrun : runLine fs arguments = run fs (.validate path submission enforce) := by
      rw [runLine, hrequest]
    rw [hrun, run_validate hf hs]
    refine ⟨Request.enforce_of_ofArguments? hrequest, rfl, exitCode_eq_zero_iff _, fun hsuccess => ?_, fun hintegral hdepth => ?_⟩
    · rw [Form.validate_data, if_pos hsuccess]
    · exact ofText_outcomeText (Submission.exact_of_ofText hsubmission hintegral) hdepth
  · have hrun : runLine fs arguments = run fs (.check path) := by
      rw [runLine, hrequest]
    rw [hrun]
    by_cases hvs : f.violations = []
    · rw [run_check_fine hf hvs]
      refine ⟨rfl, iff_of_true rfl ((Form.check_eq_ok_iff _).2 hvs), fun v hv => ?_⟩
      obtain ⟨vs, hcons⟩ := Form.check_eq_error_iff.1 hv
      cases hvs ▸ hcons
    · rw [run_check_violated hf hvs]
      refine ⟨rfl, iff_of_false (fun h : (1 : UInt8) = 0 => by cases h) fun hok => hvs ((Form.check_eq_ok_iff _).1 hok), fun v hv => ?_⟩
      exact ⟨rfl, fun w _ => w.lineBreak_not_mem_message, Form.check_eq_error_iff.1 hv⟩

set_option maxRecDepth 2000 in
/-- A submission that is accepted, for a form that does not pass its check. -/
theorem runLine_mirrors_no_steps :
    let fs := Files.ofList [("form.json", "\x7b\"isMultiStep\":true\x7d"), ("data.json", "\x7b\"b\":1,\"a\":[null]\x7d")]
    (runLine fs ["validate", "form.json", "./data.json"]).1.code = 0 ∧
      Outcome.record.codec.ofText (runLine fs ["validate", "form.json", "./data.json"]).1.output =
        .ok (.accepted (.ofList [("b", .number (.integer 1)), ("a", .array [.null])])) ∧
      (runLine fs ["check", "form.json"]).1.code ≠ 0 ∧
      (runLine fs ["check", "form.json"]).1.output = "form.json: Form is multi-step but has no steps\n" := by
  intro fs
  let f : Form := { isMultiStep := true }
  let s : Submission := .ofList [("b", .number (.integer 1)), ("a", .array [.null])]
  have hread : fs.read "form.json" = .ok "\x7b\"isMultiStep\":true\x7d" := by
    simp only [fs]
    decide +kernel
  have hform : Form.ofText "\x7b\"isMultiStep\":true\x7d" = .ok f := by rfl
  have hdata : fs.read "./data.json" = .ok "\x7b\"b\":1,\"a\":[null]\x7d" := by
    simp only [fs]
    decide +kernel
  have hsubmission : Submission.ofText "\x7b\"b\":1,\"a\":[null]\x7d" = .ok s := by rfl
  have hintegral : ∀ m ∈ s.toList, m.2.Integral :=
    List.forall_mem_cons.2 ⟨.integer (i := 1) (by decide), List.forall_mem_singleton.2 (.array (List.forall_mem_singleton.2 .null))⟩
  obtain ⟨hvalidate, -⟩ := @runLine_mirrors fs ["validate", "form.json", "./data.json"] _ _ _ hread hform
  obtain ⟨-, -, hcode, -, hback⟩ := hvalidate "./data.json" true _ s rfl hdata hsubmission
  obtain ⟨-, hcheck⟩ := @runLine_mirrors fs ["check", "form.json"] _ _ _ hread hform
  obtain ⟨-, hcode', hlines⟩ := hcheck rfl
  obtain ⟨hlines, -, -⟩ := hlines .noSteps rfl
  exact ⟨hcode.2 rfl, hback hintegral (by decide), fun h => (nomatch hcode'.1 h), hlines⟩

end Command

end Webform
