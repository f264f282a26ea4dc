import Webform.Form.Basic
import Webform.Pattern.Full
import Webform.Submission

/-!
# Validation

A submission is checked against the fields of a form's own containers, in order. A required field must not be blank; a value that is
not blank must satisfy the rules of its field, where the field takes free text and the value has a text. All that is wrong is
collected.
-/

namespace Webform

namespace Rules

/-- What the rules have against a text, for a field that messages call by the given name: the least length first, then the largest,
then the pattern. -/
def problems (r : Rules) (name text : String) : List String :=
  let length := text.length
  let tooShort := match r.minLength with
    | some n => if length < n.toNat then [name ++ " must be at least " ++ toString n.toNat ++ " characters"] else []
    | none => []
  let tooLong := match r.maxLength with
    | some n => if n.toNat < length then [name ++ " must be at most " ++ toString n.toNat ++ " characters"] else []
    | none => []
  let misfit := match r.pattern with
    | some p => if p ≠ "" ∧ !Pattern.passes p text then [name ++ " is not in the expected format"] else []
    | none => []
  tooShort ++ tooLong ++ misfit

/-- What is said when there are problems: the rules' own message in place of them all, if it is not blank. -/
def report (r : Rules) (problems : List String) : List String :=
  match problems with
  | [] => []
  | _ =>
    match r.errorMessage with
    | some m => if Text.isBlank m then problems else [m]
    | none => problems

end Rules

/-- What is wrong with the value that a submission has for a field. With `enforce` off only missing values count. -/
def Field.errors (enforce : Bool) (f : Field) (s : Submission) : List String :=
  if s.isBlank f.name then
    if f.isRequired then [f.displayName ++ " is required"] else []
  else if !enforce || !f.kind.isTextual || f.rules.isEmpty then []
  else
    match s.text? f.name with
    | none => []
    | some text => f.rules.report (f.rules.problems f.displayName text)

namespace Form

/-- All that is wrong with a submission for a form, in the order of the fields. -/
def errors (enforce : Bool) (f : Form) (s : Submission) : List String :=
  f.fields.flatMap fun g => g.errors enforce s

/-- The outcome of validating a submission for a form. -/
def validate (enforce : Bool) (f : Form) (s : Submission) : Outcome :=
  match f.errors enforce s with
  | [] => .accepted s
  | es => .rejected es

end Form

/-- The outcome of validating a submission for a form that may not have been found. -/
def validateFor (enforce : Bool) (f : Option Form) (s : Submission) : Outcome :=
  match f with
  | some f => f.validate enforce s
  | none => .formNotFound

end Webform
