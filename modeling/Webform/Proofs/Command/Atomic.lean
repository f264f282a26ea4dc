import Webform.Command.Run
import Webform.Proofs.Command.Lines

/-!
# Commands that are carried out as a whole or not at all

A command reads first (`Action.Inert`), then does one thing that may fail without effect (`Action.Atomic`), and after that only what
cannot fail (`Action.Sure`). So a command that fails has printed nothing and changed no file (`Action.atomic_execute`), and one that
does not fail does all that it was asked (`runLine_all_or_nothing`).
-/

namespace Webform.Command

namespace Action

variable {α β : Type} {x : Action α} {f : α → Action β}

/-! ## What an action may do to the world -/

/-- The action leaves the world as it is, whether it fails or not. -/
def Inert (x : Action α) : Prop := ∀ w, (∃ a, x w = .ok a w) ∨ ∃ e, x w = .error e w

/-- The action does not fail. -/
def Sure (x : Action α) : Prop := ∀ w, ∃ a w', x w = .ok a w'

/-- The action leaves the world as it is when it fails. -/
def Atomic (x : Action α) : Prop := ∀ w e w', x w = .error e w' → w' = w

theorem bind_of_ok {w w' : World} {a : α} (h : x w = .ok a w') : (x >>= f) w = f a w' := by
  simp only [bind, EStateM.bind, h]

theorem bind_of_error {w w' : World} {e : CommandError} (h : x w = .error e w') : (x >>= f) w = .error e w' := by
  simp only [bind, EStateM.bind, h]

theorem query_of_ok {look : Files → Except CommandError α} {a : α} {w : World} (h : look w.files = .ok a) :
    query look w = .ok a w := by
  simp only [query, h]

theorem query_of_error {look : Files → Except CommandError α} {e : CommandError} {w : World} (h : look w.files = .error e) :
    query look w = .error e w := by
  simp only [query, h]

theorem inert_pure (a : α) : Inert (pure a) := fun _ => .inl ⟨a, rfl⟩

theorem inert_query (look : Files → Except CommandError α) : Inert (query look) := by
  intro w
  unfold query
  cases look w.files with
  | ok a => exact .inl ⟨a, rfl⟩
  | error e => exact .inr ⟨e, rfl⟩

theorem Inert.bind (hx : Inert x) (hf : ∀ a, Inert (f a)) : Inert (x >>= f) := by
  intro w
  rcases hx w with ⟨a, ha⟩ | ⟨e, he⟩
  · rw [bind_of_ok ha]
    exact hf a w
  · exact .inr ⟨e, bind_of_error he⟩

theorem sure_pure (a : α) : Sure (pure a) := fun w => ⟨a, w, rfl⟩

theorem sure_print (text : String) : Sure (print text) := fun _ => ⟨(), _, rfl⟩

theorem Sure.bind (hx : Sure x) (hf : ∀ a, Sure (f a)) : Sure (x >>= f) := by
  intro w
  obtain ⟨a, w', ha⟩ := hx w
  rw [bind_of_ok ha]
  exact hf a w'

theorem sure_forM {as : List α} {f : α → Action PUnit} (h : ∀ a, Sure (f a)) : Sure (as.forM f) := by
  induction as with
  | nil => exact sure_pure _
  | cons a as ih => exact (h a).bind fun _ => ih

theorem Inert.atomic (hx : Inert x) : Atomic x := by
  intro w e w' he
  rcases hx w with ⟨a, ha⟩ | ⟨e', he'⟩
  · cases ha ▸ he
  · cases he' ▸ he
    rfl

theorem Sure.atomic (hx : Sure x) : Atomic x := by
  intro w e w' he
  obtain ⟨a, w₁, ha⟩ := hx w
  cases ha ▸ he

theorem atomic_store (path text : String) : Atomic (store path text) := by
  intro w e w' he
  unfold store at he
  split at he
  · cases he
  · cases he
    rfl

/-- What is only read before an atomic action does not change that. -/
theorem Inert.bind_atomic (hx : Inert x) (hf : ∀ a, Atomic (f a)) : Atomic (x >>= f) := by
  intro w e w' he
  rcases hx w with ⟨a, ha⟩ | ⟨e', he'⟩
  · rw [bind_of_ok ha] at he
    exact hf a w e w' he
  · rw [bind_of_error he'] at he
    cases he
    rfl

/-- After an atomic action only what cannot fail may follow: it would not undo what has been done. -/
theorem Atomic.bind_sure (hx : Atomic x) (hf : ∀ a, Sure (f a)) : Atomic (x >>= f) := by
  intro w e w' he
  cases hw : x w with
  | ok a w₁ =>
    rw [bind_of_ok hw] at he
    exact absurd he (by obtain ⟨b, w₂, hb⟩ := hf a w₁; rw [hb]; nofun)
  | error e₁ w₁ =>
    rw [bind_of_error hw] at he
    cases he
    exact hx w e w' hw

/-! ## The commands -/

theorem inert_validate (form submission : String) (enforce : Bool) : Inert (validate form submission enforce) :=
  (inert_query _).bind fun _ => (inert_query _).bind fun _ => inert_pure _

theorem inert_check (form : String) : Inert (check form) := (inert_query _).bind fun _ => inert_pure _

theorem atomic_render (form : String) (options : RenderOptions) (output : Option String) : Atomic (render form options output) := by
  refine (inert_query _).bind_atomic fun f => ?_
  cases output with
  | none => exact (sure_pure _).atomic
  | some path => exact (atomic_store path _).bind_sure fun _ => sure_pure _

/-- A request that cannot be carried out has done nothing to the world. -/
theorem atomic_execute (request : Request) : Atomic (execute request) := by
  cases request with
  | render form options output =>
    refine (atomic_render form options output).bind_sure fun markup => ?_
    cases output with
    | none => exact (sure_print _).bind fun _ => sure_pure _
    | some path => exact sure_pure _
  | validate form submission enforce =>
    exact (inert_validate form submission enforce).bind_atomic fun o =>
      ((sure_print _).bind fun _ => sure_pure _).atomic
  | check form =>
    refine (inert_check form).bind_atomic fun vs => Sure.atomic ?_
    cases vs with
    | nil => exact (sure_print _).bind fun _ => sure_pure _
    | cons v vs => exact (sure_forM fun v => sure_print _).bind fun _ => sure_pure _
  | version => exact ((sure_print _).bind fun _ => sure_pure _).atomic
  | help => exact ((sure_print _).bind fun _ => sure_pure _).atomic

/-- Printing texts one after the other puts them together on the output. -/
theorem forM_print (texts : List α) (line : α → String) (w : World) :
    (texts.forM fun t => print (line t)) w = .ok () { w with output := w.output ++ String.join (texts.map line) } := by
  induction texts generalizing w with
  | nil =>
    rw [List.map_nil, String.join_nil, String.append_empty]
    rfl
  | cons t ts ih =>
    have hprint : print (line t) w = .ok () { w with output := w.output ++ line t } := rfl
    refine (bind_of_ok hprint).trans ?_
    rw [ih, List.map_cons, String.join_cons, String.append_assoc]

end Action

/-! ## Requests that are carried out -/

section Runs

variable {fs : Files} {form : String} {f : Form} {e : CommandError}

/-- A request that ends with a report has printed nothing and changed no file. -/
theorem run_of_error {request : Request} (h : (run fs request).1.error = some e) : run fs request = (.failure e, fs) := by
  unfold run at h ⊢
  split at h
  · cases h
  · rename_i e' w hw
    cases h
    rw [Action.atomic_execute request _ _ _ hw]
    rfl

/-- A request that ends without a report ends with an exit code in a world. -/
theorem run_of_ok {request : Request} {code : UInt8} {w : World} (h : Action.execute request ⟨fs, ""⟩ = .ok code w) :
    run fs request = (⟨code, w.output, none⟩, w.files) := by
  rw [run, h]

theorem run_of_failed {request : Request} {w : World} (h : Action.execute request ⟨fs, ""⟩ = .error e w) :
    run fs request = (.failure e, fs) := by
  refine run_of_error (e := e) ?_
  rw [run, h]

/-- The markup of a form goes to the output. -/
theorem run_render (hf : loadForm fs form = .ok f) (options : RenderOptions) :
    run fs (.render form options none) = (.success (f.render options), fs) := by
  have hrender : Action.render form options none ⟨fs, ""⟩ = .ok (f.render options) ⟨fs, ""⟩ :=
    Action.bind_of_ok (Action.query_of_ok hf)
  have hexecute : Action.execute (.render form options none) ⟨fs, ""⟩ = .ok 0 ⟨fs, "" ++ f.render options⟩ :=
    Action.bind_of_ok hrender
  rw [run_of_ok hexecute, String.empty_append]
  rfl

/-- The markup of a form goes to a file instead. -/
theorem run_render_to {path : String} {options : RenderOptions} {after : Files} (hf : loadForm fs form = .ok f)
    (hwrite : fs.write path (f.render options) = .ok after) :
    run fs (.render form options (some path)) = (.success "", after) := by
  have hstore : Action.store path (f.render options) ⟨fs, ""⟩ = .ok () ⟨after, ""⟩ := by
    simp only [Action.store, hwrite]
  have hrender : Action.render form options (some path) ⟨fs, ""⟩ = .ok (f.render options) ⟨after, ""⟩ :=
    (Action.bind_of_ok (Action.query_of_ok hf)).trans (Action.bind_of_ok hstore)
  have hexecute : Action.execute (.render form options (some path)) ⟨fs, ""⟩ = .ok 0 ⟨after, ""⟩ := Action.bind_of_ok hrender
  exact run_of_ok hexecute

theorem run_render_unwritten {path : String} {options : RenderOptions} {fault : FileFault} (hf : loadForm fs form = .ok f)
    (hwrite : fs.write path (f.render options) = .error fault) :
    run fs (.render form options (some path)) = (.failure (.unwritten path fault), fs) := by
  have hstore : Action.store path (f.render options) ⟨fs, ""⟩ = .error (.unwritten path fault) ⟨fs, ""⟩ := by
    simp only [Action.store, hwrite]
  have hrender : Action.render form options (some path) ⟨fs, ""⟩ = .error (.unwritten path fault) ⟨fs, ""⟩ :=
    (Action.bind_of_ok (Action.query_of_ok hf)).trans (Action.bind_of_error hstore)
  exact run_of_failed (Action.bind_of_error hrender)

/-- The outcome of a validation goes to the output, and its success to the exit code. -/
theorem run_validate {submission : String} {s : Submission} (hf : loadForm fs form = .ok f)
    (hs : loadSubmission fs submission = .ok s) (enforce : Bool) :
    run fs (.validate form submission enforce) =
      (⟨if (f.validate enforce s).success then 0 else 1, outcomeText (f.validate enforce s), none⟩, fs) := by
  have hvalidate : Action.validate form submission enforce ⟨fs, ""⟩ = .ok (f.validate enforce s) ⟨fs, ""⟩ :=
    (Action.bind_of_ok (Action.query_of_ok hf)).trans (Action.bind_of_ok (Action.query_of_ok hs))
  have hexecute : Action.execute (.validate form submission enforce) ⟨fs, ""⟩ =
      .ok (if (f.validate enforce s).success then 0 else 1) ⟨fs, "" ++ outcomeText (f.validate enforce s)⟩ :=
    Action.bind_of_ok hvalidate
  rw [run_of_ok hexecute, String.empty_append]

/-- A form without violations is called fine. -/
theorem run_check_fine (hf : loadForm fs form = .ok f) (hvs : f.violations = []) :
    run fs (.check form) = (.success (form ++ ": ok\n"), fs) := by
  have hcheck : Action.check form ⟨fs, ""⟩ = .ok f.violations ⟨fs, ""⟩ := Action.bind_of_ok (Action.query_of_ok hf)
  rw [hvs] at hcheck
  have hexecute : Action.execute (.check form) ⟨fs, ""⟩ = .ok 0 ⟨fs, "" ++ (form ++ ": ok\n")⟩ := Action.bind_of_ok hcheck
  rw [run_of_ok hexecute, String.empty_append]
  rfl

/-- The violations of a form go to the output one by one. -/
theorem run_check_violated (hf : loadForm fs form = .ok f) (hvs : f.violations ≠ []) :
    run fs (.check form) = (⟨1, String.join (f.violations.map (violationLine form)), none⟩, fs) := by
  have hcheck : Action.check form ⟨fs, ""⟩ = .ok f.violations ⟨fs, ""⟩ := Action.bind_of_ok (Action.query_of_ok hf)
  have hexecute : Action.execute (.check form) ⟨fs, ""⟩ =
      .ok 1 ⟨fs, "" ++ String.join (f.violations.map (violationLine form))⟩ := by
    refine (Action.bind_of_ok hcheck).trans ?_
    rw [if_neg (by simpa using hvs)]
    exact Action.bind_of_ok (Action.forM_print f.violations (violationLine form) ⟨fs, ""⟩)
  rw [run_of_ok hexecute, String.empty_append]

end Runs

/-! ## All or nothing -/

namespace Files

variable {fs after : Files} {path text : String}

theorem write_of_none (h : fs.refusal? (fs.way path) = none) (text : String) : ∃ after, fs.write path text = .ok after := by
  unfold write
  rw [h]
  exact ⟨_, rfl⟩

theorem write_of_some {fault : FileFault} (h : fs.refusal? (fs.way path) = some fault) (text : String) :
    fs.write path text = .error fault := by
  unfold write
  rw [h]

/-- A text that has been stored is there, under every path that leads to the same file. -/
theorem read_write (h : fs.write path text = .ok after) {p : String} (hp : fs.way p = fs.way path) : after.read p = .ok text := by
  unfold write at h
  split at h
  · cases h
  · cases h
    exact if_pos hp

/-- Other files are as before. -/
theorem read_write_of_ne (h : fs.write path text = .ok after) {p : String} (hp : fs.way p ≠ fs.way path) :
    after.read p = fs.read p := by
  unfold write at h
  split at h
  · cases h
  · cases h
    exact if_neg hp

end Files

/-- What a request needs: the documents that it reads are there and well formed, and the file that it writes can be written. -/
def Request.Feasible (fs : Files) : Request → Prop
  | .render form _ output =>
    (∃ f text, fs.read form = .ok text ∧ Form.ofText text = .ok f) ∧ ∀ path ∈ output, fs.refusal? (fs.way path) = none
  | .validate form submission _ =>
    (∃ f text, fs.read form = .ok text ∧ Form.ofText text = .ok f) ∧
      ∃ s text, fs.read submission = .ok text ∧ Submission.ofText text = .ok s
  | .check form => ∃ f text, fs.read form = .ok text ∧ Form.ofText text = .ok f
  | .version | .help => True

theorem loadForm_eq_ok_iff {fs : Files} {path : String} {f : Form} :
    loadForm fs path = .ok f ↔ ∃ text, fs.read path = .ok text ∧ Form.ofText text = .ok f := by
  unfold loadForm
  cases fs.read path with
  | error fault => simp
  | ok text => cases h : Form.ofText text <;> simp [h]

theorem loadSubmission_eq_ok_iff {fs : Files} {path : String} {s : Submission} :
    loadSubmission fs path = .ok s ↔ ∃ text, fs.read path = .ok text ∧ Submission.ofText text = .ok s := by
  unfold loadSubmission
  cases fs.read path with
  | error fault => simp
  | ok text => cases h : Submission.ofText text <;> simp [h]

theorem Request.feasible_render {fs : Files} {form : String} {options : RenderOptions} {output : Option String} :
    Request.Feasible fs (.render form options output) ↔
      (∃ f, loadForm fs form = .ok f) ∧ ∀ path ∈ output, fs.refusal? (fs.way path) = none := by
  simp only [Request.Feasible, loadForm_eq_ok_iff]

theorem Request.feasible_validate {fs : Files} {form submission : String} {enforce : Bool} :
    Request.Feasible fs (.validate form submission enforce) ↔
      (∃ f, loadForm fs form = .ok f) ∧ ∃ s, loadSubmission fs submission = .ok s := by
  simp only [Request.Feasible, loadForm_eq_ok_iff, loadSubmission_eq_ok_iff]

theorem Request.feasible_check {fs : Files} {form : String} :
    Request.Feasible fs (.check form) ↔ ∃ f, loadForm fs form = .ok f := by
  simp only [Request.Feasible, loadForm_eq_ok_iff]

/-- A request is carried out without a report when there is all that it needs, and only then. -/
theorem run_error_eq_none_iff (fs : Files) (request : Request) : (run fs request).1.error = none ↔ request.Feasible fs := by
  cases request with
  | render form options output =>
    cases hf : loadForm fs form with
    | error e =>
      rw [run_of_failed (Action.bind_of_error (Action.bind_of_error (Action.query_of_error hf)))]
      simp [Request.feasible_render, Ending.failure, hf]
    | ok f =>
      cases output with
      | none =>
        rw [run_render hf]
        simp [Request.feasible_render, Ending.success, hf]
      | some path =>
        cases hrefusal : fs.refusal? (fs.way path) with
        | none =>
          obtain ⟨after, hwrite⟩ := Files.write_of_none hrefusal (f.render options)
          rw [run_render_to hf hwrite]
          simp [Request.feasible_render, Ending.success, hf, hrefusal]
        | some fault =>
          rw [run_render_unwritten hf (Files.write_of_some hrefusal _)]
          simp [Request.feasible_render, Ending.failure, hrefusal]
  | validate form submission enforce =>
    cases hf : loadForm fs form with
    | error e =>
      rw [run_of_failed (Action.bind_of_error (Action.bind_of_error (Action.query_of_error hf)))]
      simp [Request.feasible_validate, Ending.failure, hf]
    | ok f =>
      cases hs : loadSubmission fs submission with
      | error e =>
        have hvalidate : Action.validate form submission enforce ⟨fs, ""⟩ = .error e ⟨fs, ""⟩ :=
          (Action.bind_of_ok (Action.query_of_ok hf)).trans (Action.bind_of_error (Action.query_of_error hs))
        rw [run_of_failed (Action.bind_of_error hvalidate)]
        simp [Request.feasible_validate, Ending.failure, hs]
      | ok s =>
        rw [run_validate hf hs]
        simp [Request.feasible_validate, hf, hs]
  | check form =>
    cases hf : loadForm fs form with
    | error e =>
      rw [run_of_failed (Action.bind_of_error (Action.bind_of_error (Action.query_of_error hf)))]
      simp [Request.feasible_check, Ending.failure, hf]
    | ok f =>
      by_cases hvs : f.violations = []
      · rw [run_check_fine hf hvs]
        simp [Request.feasible_check, Ending.success, hf]
      · rw [run_check_violated hf hvs]
        simp [Request.feasible_check, hf]
  | version | help => exact iff_of_true rfl trivial

/-- A request that is carried out changes no file but the one that it was asked to write, and stores there what it would otherwise
have printed. -/
theorem run_of_feasible {fs : Files} {request : Request} (h : request.Feasible fs) :
    match request.output? with
    | none => (run fs request).2 = fs
    | some path => ∃ text after, run fs request = (.success "", after) ∧ fs.write path text = .ok after ∧
        run fs request.plain = (.success text, fs) := by
  cases request with
  | render form options output =>
    obtain ⟨⟨f, hf⟩, hwritable⟩ := Request.feasible_render.1 h
    cases output with
    | none =>
      show (run fs (.render form options none)).2 = fs
      rw [run_render hf]
    | some path =>
      obtain ⟨after, hwrite⟩ := Files.write_of_none (hwritable path rfl) (f.render options)
      exact ⟨f.render options, after, run_render_to hf hwrite, hwrite, run_render hf options⟩
  | validate form submission enforce =>
    obtain ⟨⟨f, hf⟩, s, hs⟩ := Request.feasible_validate.1 h
    show (run fs (.validate form submission enforce)).2 = fs
    rw [run_validate hf hs]
  | check form =>
    obtain ⟨f, hf⟩ := Request.feasible_check.1 h
    show (run fs (.check form)).2 = fs
    by_cases hvs : f.violations = []
    · rw [run_check_fine hf hvs]
    · rw [run_check_violated hf hvs]
  | version | help => rfl

/-- A command line is carried out as a whole or not at all. If it ends with a report, which happens exactly when something that it
needs is missing, it has printed nothing and changed no file. Otherwise the files are as before, but for the one that is asked for
with `--output`: it alone is changed and holds what the same line without the option prints. -/
theorem runLine_all_or_nothing {fs after : Files} {arguments : List String} {request : Request} {ending : Ending}
    (hrequest : Request.ofArguments? arguments = some request) (hrun : runLine fs arguments = (ending, after)) :
    (ending.error = none ↔ request.Feasible fs) ∧
    (ending.error ≠ none → ending.code = 1 ∧ ending.output = "" ∧ after = fs) ∧
    (ending.error = none → request.output? = none → after = fs) ∧
    ∀ path, ending.error = none → request.output? = some path →
      ending.code = 0 ∧ ending.output = "" ∧ (∀ p, fs.way p ≠ fs.way path → after.read p = fs.read p) ∧
      ∃ text, after.read path = .ok text ∧ runLine fs (withoutOutput arguments) = (.success text, fs) := by
  have hline : runLine fs arguments = run fs request := by
    rw [runLine, hrequest]
  have hplain : runLine fs (withoutOutput arguments) = run fs request.plain := by
    rw [runLine, Request.ofArguments?_withoutOutput hrequest]
  rw [hline] at hrun
  have hfeasible : ending.error = none ↔ request.Feasible fs := by
    rw [← run_error_eq_none_iff, hrun]
  refine ⟨hfeasible, fun herror => ?_, fun herror houtput => ?_, fun path herror houtput => ?_⟩
  · obtain ⟨e, he⟩ := Option.ne_none_iff_exists'.1 herror
    have hfailed : run fs request = (.failure e, fs) := run_of_error (hrun ▸ he)
    rw [hrun] at hfailed
    cases hfailed
    exact ⟨rfl, rfl, rfl⟩
  · have hkept := run_of_feasible (hfeasible.1 herror)
    rw [houtput] at hkept
    rw [← hkept, hrun]
  · have hstored := run_of_feasible (hfeasible.1 herror)
    rw [houtput] at hstored
    obtain ⟨text, after', hrun', hwrite, hprinted⟩ := hstored
    rw [hrun] at hrun'
    cases hrun'
    exact ⟨rfl, rfl, fun p hp => Files.read_write_of_ne hwrite hp, text, Files.read_write hwrite rfl, hplain.trans hprinted⟩

set_option maxRecDepth 2000 in
/-- A page is stored over an earlier one, under a path with a detour; a form that cannot be read leaves the earlier page there. -/
theorem runLine_all_or_nothing_page :
    let fs := Files.ofList [("form.json", "\x7b\x7d"), ("page.html", "old")]
    let arguments := ["render", "form.json", "--raw", "-vo", "./page.html"]
    let misread := ["render", "page.html", "--output=page.html"]
    withoutOutput arguments = ["render", "form.json", "--raw", "-v"] ∧ (runLine fs arguments).1.error = none ∧
      (∃ text, (runLine fs arguments).2.read "./page.html" = .ok text ∧
        runLine fs ["render", "form.json", "--raw", "-v"] = (.success text, fs)) ∧
      (runLine fs misread).1.error ≠ none ∧ (runLine fs misread).2 = fs := by
  intro fs arguments misread
  have hread : fs.read "form.json" = .ok "\x7b\x7d" := by
    simp only [fs]
    decide +kernel
  have hform : Form.ofText "\x7b\x7d" = .ok {} := by rfl
  have hrefusal : fs.refusal? (fs.way "./page.html") = none := by
    simp only [fs]
    decide +kernel
  have hold : fs.read "page.html" = .ok "old" := by
    simp only [fs]
    decide +kernel
  have hnoform : (Form.ofText "old").toOption = none := by rfl
  have hrequest : Request.ofArguments? arguments = some (.render "form.json" { escape := false } (some "./page.html")) := by
    simp only [arguments]
    rfl
  have hmisread : Request.ofArguments? misread = some (.render "page.html" {} (some "page.html")) := by
    simp only [misread]
    rfl
  have hplain : withoutOutput arguments = ["render", "form.json", "--raw", "-v"] := by
    simp only [arguments]
    rfl
  obtain ⟨hfeasible, -, -, hstored⟩ := @runLine_all_or_nothing fs _ arguments _ _ hrequest rfl
  have hnone : (runLine fs arguments).1.error = none :=
    hfeasible.2 ⟨⟨_, _, hread, hform⟩, fun path hpath => by cases hpath; exact hrefusal⟩
  obtain ⟨-, -, -, htext⟩ := hstored "./page.html" hnone rfl
  obtain ⟨hfeasible', hkept, -, -⟩ := @runLine_all_or_nothing fs _ misread _ _ hmisread rfl
  have hsome : (runLine fs misread).1.error ≠ none := by
    intro hnone
    obtain ⟨⟨f, text, htext, hf⟩, -⟩ := hfeasible'.1 hnone
    cases hold.symm.trans htext
    rw [hf] at hnoform
    cases hnoform
  exact ⟨hplain, hnone, htext, hsome, (hkept hsome).2.2⟩

end Webform.Command
