import Webform.Form.Field
import Webform.Markup.Node
import Webform.Styling

/-!
# Controls

The markup of a field: a group with the field's label, the control of its kind, and its tooltip. The control repeats the rules that
a submission is validated by, as far as there are attributes for them.
-/

namespace Webform

open Markup

/-- The class and style attributes of an element with classes of its own. -/
def Styling.classAttribute (s : Styling) (own : List String) : Attribute :=
  .of "class" (" ".intercalate (own ++ s.classes))

/-- The style attribute, if there is anything to declare. -/
def Styling.styleAttribute (s : Styling) : List Attribute :=
  if s.declarations.isEmpty then [] else [.of "style" s.styleText]

namespace Rules

/-- The attribute of a bound on the length. -/
def boundAttribute (name : String) (bound : Option UInt64) : List Attribute :=
  match bound with
  | some n => [.of name (toString n.toNat)]
  | none => []

/-- The attributes of the bounds on the length. -/
def lengthAttributes (r : Rules) : List Attribute :=
  boundAttribute "minlength" r.minLength ++ boundAttribute "maxlength" r.maxLength

/-- The attribute of the pattern. -/
def patternAttribute (r : Rules) : List Attribute := filledAttribute "pattern" (r.pattern.getD "")

end Rules

namespace Field

/-- The attributes by which the control is found and its value is submitted. -/
def handles (f : Field) : List Attribute := [.of "id" f.name, .of "name" f.name]

/-- The mark of a control without which the form cannot be sent. -/
def requiredAttribute (f : Field) : List Attribute := flagAttribute f.isRequired "required"

/-- A control of one line. -/
def inputNode (f : Field) : Node :=
  let rules := if f.kind.isTextual then f.rules.lengthAttributes ++ f.rules.patternAttribute else []
  .void "input" ([.of "type" f.kind.tag, .of "class" "form-control"] ++ f.handles ++ [.of "placeholder" f.placeholder] ++
    filledAttribute "value" (f.defaultValue.getD "") ++ rules ++ f.requiredAttribute) true

/-- A control of several lines; there is no attribute for the pattern. -/
def textareaNode (f : Field) : Node :=
  .text "textarea" (.of "class" "form-control" :: f.handles ++ [.of "placeholder" f.placeholder] ++ f.rules.lengthAttributes ++
    f.requiredAttribute) ""

/-- A list of choices of which one is picked. -/
def selectNode (f : Field) : Node :=
  .block "select" (.of "class" "form-select" :: f.handles ++ f.requiredAttribute) <| f.choices.map fun c =>
    .text "option" (.of "value" c.value :: flagAttribute (f.isDefault c.value) "selected") c.text

/-- The key by which the label of a choice names its box. -/
def choiceKey (f : Field) (c : Choice) : String := f.name ++ "_" ++ c.value

/-- A choice with a box of its own. -/
def choiceNode (f : Field) (type : String) (required : List Attribute) (c : Choice) : Node :=
  .block "div" [.of "class" "form-check"] [
    .void "input" ([.of "class" "form-check-input", .of "type" type, .of "id" (f.choiceKey c), .of "name" f.name,
      .of "value" c.value] ++ flagAttribute (f.isDefault c.value) "checked" ++ required) true,
    .text "label" [.of "class" "form-check-label", .of "for" (f.choiceKey c)] c.text]

/-- The control of a field, by its kind. The boxes of a checkbox field are never marked as required, since each of them would have
to be ticked; a kind that nothing is known of has no control. -/
def control (f : Field) : List Node :=
  match f.kind with
  | .text | .email | .number => [f.inputNode]
  | .textarea => [f.textareaNode]
  | .select => [f.selectNode]
  | .checkbox => f.choices.map (f.choiceNode "checkbox" [])
  | .radio => f.choices.map (f.choiceNode "radio" f.requiredAttribute)
  | .unknown _ => []

/-- The label, if there is one. -/
def labelNodes (f : Field) : List Node :=
  if f.label.isEmpty then [] else [.text "label" [.of "for" f.name, .of "class" "form-label"] f.label]

/-- The tooltip, if there is one. -/
def tooltipNodes (f : Field) : List Node :=
  if f.tooltip.isEmpty then [] else [.text "small" [.of "class" "form-text text-muted"] f.tooltip]

/-- The group of a field. -/
def node (f : Field) : Node :=
  let s := f.style.styling
  .block "div" (s.classAttribute ["form-group", "mb-3"] :: .of "data-field-id" f.id.toString :: s.styleAttribute)
    (f.labelNodes ++ f.control ++ f.tooltipNodes)

end Field

end Webform
