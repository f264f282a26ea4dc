import Webform.Json.Codec
import Webform.Text.Blank

/-!
# Submissions

The values that were submitted for a form, by field name, in order of insertion; and the outcome of validating them. No name is there
twice: that is part of the type.
-/

namespace Webform

open Json

/-- What was submitted for a form: values by field name, in order of insertion. -/
structure Submission where
  values : Object := {}
deriving Repr, Inhabited

namespace Submission

def empty : Submission := {}

/-- Sets the value of a name: an earlier value is replaced where it stands, a new name goes to the end. -/
def insert (s : Submission) (name : String) (value : Value) : Submission :=
  ⟨s.values.insert name value⟩

/-- The submission of a list of names and values, inserted in order. -/
def ofList (pairs : List (String × Value)) : Submission :=
  pairs.foldl (fun s p => s.insert p.1 p.2) empty

/-- The names and values, in order. -/
def toList (s : Submission) : List (String × Value) := s.values.members

def get? (s : Submission) (name : String) : Option Value := s.values.members.get? name

def contains (s : Submission) (name : String) : Bool := (s.get? name).isSome

def size (s : Submission) : Nat := s.values.members.length

def isEmpty (s : Submission) : Bool := s.values.members.isEmpty

/-- Whether a value counts as not provided: `null`, a blank string, an empty list or object. -/
def isBlankValue : Value → Bool
  | .null => true
  | .bool _ => false
  | .number _ => false
  | .string s => Text.isBlank s
  | .array vs => vs.isEmpty
  | .object ms => ms.isEmpty

/-- Whether the value of a name counts as not provided; an absent one does. -/
def isBlank (s : Submission) (name : String) : Bool :=
  ((s.get? name).map isBlankValue).getD true

/-- The text of a value without entries, as a page would submit it. -/
def textOfValue? : Value → Option String
  | .string s => some s
  | .number n => some (.ofList n.toList)
  | .bool b => some (.ofList (boolToList b))
  | .null | .array _ | .object _ => none

/-- The text of the value of a name; lists and objects have none. -/
def text? (s : Submission) (name : String) : Option String :=
  (s.get? name).bind textOfValue?

/-- A submission is an object of free values. -/
def codec : Codec Submission where
  read lim cs := (Codec.members.read lim cs).as Submission.mk
  write s := .object s.values.members

/-- Reads the text of a submission. -/
def ofText (text : String) : Except Failure Submission := codec.ofText text

end Submission

/-! ## Outcomes -/

/-- The outcome of validating a submission: what is wrong with it, in the order of the fields, or the submission itself. -/
structure Outcome where
  success : Bool := false
  errors : List String := []
  data : Option Submission := none
deriving Repr, Inhabited

namespace Outcome

/-- Nothing is wrong with the submission. -/
def accepted (s : Submission) : Outcome := ⟨true, [], some s⟩

/-- Something is wrong. -/
def rejected (errors : List String) : Outcome := ⟨false, errors, none⟩

/-- There is no form to validate against. -/
def formNotFound : Outcome := rejected ["Form not found"]

/-- An outcome always tells its success and its errors; the data is left out when there is none. -/
def record : Record Outcome where
  name := "SubmissionResult"
  start := {}
  members := [
    { Member.of "success" .bool (·.success) fun o x => { o with success := x } with required := true },
    { Member.of "errors" (.list .text) (·.errors) fun o x => { o with errors := x } with required := true },
    { Member.of "data" (.optional Submission.codec) (·.data) fun o x => { o with data := x } with
      write := fun o => o.data.map Submission.codec.write }]

end Outcome

end Webform
