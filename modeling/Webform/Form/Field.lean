import Webform.Form.Style
import Webform.Identifier
import Webform.Json.Value
import Webform.Text.Blank

/-!
# Fields

A field asks for one value. Its kind decides on the control that is shown and on the rules that apply; kinds that nothing is known
of are kept by name. `Field.displayName` is how messages call a field.
-/

namespace Webform

/-- The kind of control that a field is shown as. -/
inductive ControlKind where
  | text
  | email
  | number
  | textarea
  | select
  | checkbox
  | radio
  | unknown (tag : String)
deriving DecidableEq, Repr, Inhabited

namespace ControlKind

/-- The kind with a tag, whose case does not matter among ASCII letters. A tag without a known kind is kept as it is. -/
def ofTag (tag : String) : ControlKind :=
  match tag.map Char.toLower with
  | "text" => text
  | "email" => email
  | "number" => number
  | "textarea" => textarea
  | "select" => select
  | "checkbox" => checkbox
  | "radio" => radio
  | _ => unknown tag

/-- The tag of a kind. -/
def tag : ControlKind → String
  | text => "text"
  | email => "email"
  | number => "number"
  | textarea => "textarea"
  | select => "select"
  | checkbox => "checkbox"
  | radio => "radio"
  | unknown tag => tag

/-- Whether the kind offers the field's choices. -/
def isChoice : ControlKind → Bool
  | select | checkbox | radio => true
  | _ => false

/-- Whether the kind takes free text, so that rules on length and pattern apply. -/
def isTextual : ControlKind → Bool
  | text | email | textarea => true
  | _ => false

def isUnknown : ControlKind → Bool
  | unknown _ => true
  | _ => false

end ControlKind

/-- One choice of a field: the value that is submitted and the text that is shown. -/
structure Choice where
  value : String := ""
  text : String := ""
deriving DecidableEq, Repr, Inhabited

/-- The rules that a field's text must satisfy, and the message for a text that does not. -/
structure Rules where
  minLength : Option UInt64 := none
  maxLength : Option UInt64 := none
  pattern : Option String := none
  errorMessage : Option String := none
deriving DecidableEq, Repr, Inhabited

/-- There are no rules when there is no bound and no pattern; a message alone is no rule. -/
def Rules.isEmpty (r : Rules) : Bool := r.minLength.isNone && r.maxLength.isNone && r.pattern.isNone

/-- A field of a form. `name` is the key of its value in a submission. `logic` is an expression about when the field is shown; it is
carried along and never evaluated. -/
structure Field where
  id : Identifier := .nil
  kind : ControlKind := .text
  label : String := ""
  name : String := ""
  placeholder : String := ""
  tooltip : String := ""
  defaultValue : Option String := none
  isRequired : Bool := false
  rules : Rules := {}
  style : FieldStyle := {}
  choices : List Choice := []
  logic : Option Json.Value := none
deriving Repr, Inhabited

namespace Field

/-- The field with a further choice at the end. -/
def addChoice (f : Field) (c : Choice) : Field := { f with choices := f.choices ++ [c] }

/-- How messages call the field: by its label, or by its name when the label is blank. -/
def displayName (f : Field) : String :=
  if Text.isBlank f.label then f.name else f.label

/-- Whether a value is the field's default value. -/
def isDefault (f : Field) (value : String) : Bool := f.defaultValue == some value

end Field

end Webform
