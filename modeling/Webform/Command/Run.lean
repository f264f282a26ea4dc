import Webform.Command.Files
import Webform.Command.Line
import Webform.Form.Document
import Webform.Form.Violation
import Webform.Validation

/-!
# Running a command

A request is carried out on the files of a working directory by steps that read files, store one and print (`Action`). It ends with
an exit code, or with a report of why it could not be carried out (`CommandError`).
-/

namespace Webform.Command

/-- Why a request could not be carried out. -/
inductive CommandError where
  | formUnread (path : String) (fault : FileFault)
  | formMalformed (path text : String) (failure : Json.Failure)
  | submissionUnread (path : String) (fault : FileFault)
  | submissionMalformed (path text : String) (failure : Json.Failure)
  | unwritten (path : String) (fault : FileFault)
deriving Repr

namespace CommandError

/-- What could not be done. -/
def summary : CommandError → String
  | formUnread path _ => "Failed to read schema " ++ path
  | formMalformed path _ _ => "Failed to parse schema " ++ path
  | submissionUnread path _ => "Failed to read submission " ++ path
  | submissionMalformed path _ _ => "Submission " ++ path ++ " is not a JSON object"
  | unwritten path _ => "Failed to write " ++ path

/-- Why it could not be done, the nearest cause first. -/
def causes : CommandError → List String
  | formUnread _ fault | submissionUnread _ fault | unwritten _ fault => [fault.message]
  | formMalformed _ text failure => [Form.readMessage text failure, failure.message text.toList]
  | submissionMalformed _ text failure => [failure.message text.toList]

/-- The lines of a cause, the first after `lead` and the others as far in. -/
def causeLines (lead : List Char) (cause : String) : List Char :=
  lead ++ cause.toList.flatMap fun c => if c = '\n' then '\n' :: lead.map (fun _ => ' ') else [c]

/-- The causes on lines of their own; several causes are numbered from zero. -/
def causesText (causes : List String) : List Char :=
  match causes with
  | [cause] => causeLines (List.replicate 4 ' ') cause ++ ['\n']
  | causes => causes.zipIdx.flatMap fun c =>
      causeLines (List.replicate 4 ' ' ++ (toString c.2).toList ++ [':', ' ']) c.1 ++ ['\n']

/-- The report of an error. -/
def report (e : CommandError) : String :=
  "Error: " ++ e.summary ++ "\n\nCaused by:\n" ++ .ofList (causesText e.causes)

end CommandError

/-- How a command ends: its exit code, what goes to the output, and the error that is reported, if any. -/
structure Ending where
  code : UInt8
  output : String := ""
  error : Option CommandError := none
deriving Repr

namespace Ending

/-- The command has done what it was asked. -/
def success (output : String) : Ending := ⟨0, output, none⟩

/-- The command could not be carried out. -/
def failure (e : CommandError) : Ending := ⟨1, "", some e⟩

/-- The command line is not well formed. -/
def misuse : Ending := ⟨2, "", none⟩

end Ending

/-- The name and version of the command. -/
def versionText : String := "formwork 0.1.0\n"

/-- The command lines that there are. -/
def helpText : String :=
  "formwork render <schema> [--full-document] [--raw] [--semantic-containers] [--output <path>]\n" ++
  "formwork validate <schema> <submission> [--required-only]\n" ++
  "formwork check <schema>\n"

/-- Reads the form under a path. -/
def loadForm (fs : Files) (path : String) : Except CommandError Form :=
  match fs.read path with
  | .error fault => .error (.formUnread path fault)
  | .ok text =>
    match Form.ofText text with
    | .error failure => .error (.formMalformed path text failure)
    | .ok f => .ok f

/-- Reads the submission under a path. -/
def loadSubmission (fs : Files) (path : String) : Except CommandError Submission :=
  match fs.read path with
  | .error fault => .error (.submissionUnread path fault)
  | .ok text =>
    match Submission.ofText text with
    | .error failure => .error (.submissionMalformed path text failure)
    | .ok s => .ok s

/-- The text of an outcome. -/
def outcomeText (o : Outcome) : String := Outcome.record.codec.pretty o ++ "\n"

/-- The line for a violation of the form under a path. -/
def violationLine (path : String) (v : Violation) : String := path ++ ": " ++ v.message ++ "\n"

/-! ## Actions -/

/-- What a command works on: the files, and what has gone to the output so far. -/
structure World where
  files : Files
  output : String

/-- A part of a command. What it has done to the world stays done when it fails. -/
abbrev Action (α : Type) := EStateM CommandError World α

namespace Action

/-- Finds something out about the files. -/
def query {α : Type} (look : Files → Except CommandError α) : Action α := fun w =>
  match look w.files with
  | .ok a => .ok a w
  | .error e => .error e w

/-- Puts a text on the output. -/
def print (text : String) : Action Unit := fun w => .ok () { w with output := w.output ++ text }

/-- Stores a text under a path. -/
def store (path text : String) : Action Unit := fun w =>
  match w.files.write path text with
  | .ok files => .ok () { w with files := files }
  | .error fault => .error (.unwritten path fault) w

/-- The markup of the form under a path, which is also stored if there is a path for it. -/
def render (form : String) (options : RenderOptions) (output : Option String) : Action String := do
  let f ← query (loadForm · form)
  let markup := f.render options
  if let some path := output then store path markup
  return markup

/-- The outcome of validating the submission under one path for the form under another. -/
def validate (form submission : String) (enforce : Bool) : Action Outcome := do
  let f ← query (loadForm · form)
  let s ← query (loadSubmission · submission)
  return f.validate enforce s

/-- The violations of the form under a path. -/
def check (form : String) : Action (List Violation) := do
  let f ← query (loadForm · form)
  return f.violations

/-- Carries out a request, to an exit code. -/
def execute : Request → Action UInt8
  | .render form options output => do
    let markup ← render form options output
    if output.isNone then print markup
    return 0
  | .validate form submission enforce => do
    let o ← validate form submission enforce
    print (outcomeText o)
    return if o.success then 0 else 1
  | .check form => do
    let vs ← check form
    if vs.isEmpty then
      print (form ++ ": ok\n")
      return 0
    vs.forM fun v => print (violationLine form v)
    return 1
  | .version => do
    print versionText
    return 0
  | .help => do
    print helpText
    return 0

end Action

/-- Carries out a request: how it ends, and the files after it. -/
def run (fs : Files) (request : Request) : Ending × Files :=
  match Action.execute request ⟨fs, ""⟩ with
  | .ok code w => (⟨code, w.output, none⟩, w.files)
  | .error e w => (⟨1, w.output, some e⟩, w.files)

/-- Carries out a command line. -/
def runLine (fs : Files) (arguments : List String) : Ending × Files :=
  match Request.ofArguments? arguments with
  | some request => run fs request
  | none => (.misuse, fs)

end Webform.Command
