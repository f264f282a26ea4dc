import Webform.Form.Basic
import Webform.Json.Codec

/-!
# Form documents

The JSON form of a form and of each of its parts: one record description for each type, with the keys of its members in the order
in which they are written. Members that are absent have the defaults of the type.
-/

namespace Webform

open Json

namespace LayoutKind

/-- The name of a layout kind. -/
def name : LayoutKind → String
  | flex => "flex"
  | grid => "grid"
  | columns => "columns"

def codec : Codec LayoutKind :=
  .choice [("Flex", flex), ("flex", flex), ("Grid", grid), ("grid", grid), ("Columns", columns), ("columns", columns)] name

end LayoutKind

namespace ContainerKind

/-- The name of a container kind. -/
def name : ContainerKind → String
  | block => "generic-block"
  | part => "section"
  | group => "field-group"

def codec : Codec ContainerKind :=
  .choice [("Div", block), ("div", block), ("generic-block", block), ("Section", part), ("section", part),
    ("Fieldset", group), ("field-group", group), ("fieldset", group)] name

end ContainerKind

/-- A control kind is written as its tag. -/
def ControlKind.codec : Codec ControlKind where
  read lim cs := (Codec.text.read lim cs).as .ofTag
  write k := .string k.tag

/-- An optional text of a record. -/
def optionalText {R : Type} (key : String) (get : R → Option String) (set : R → Option String → R) : Member R :=
  .of key (.optional .text) get set

def FlexLayout.record : Record FlexLayout where
  name := "FlexStyle"
  start := {}
  members := [
    .of "direction" .text (·.direction) fun s x => { s with direction := x },
    .of "justifyContent" .text (·.justifyContent) fun s x => { s with justifyContent := x },
    .of "alignItems" .text (·.alignItems) fun s x => { s with alignItems := x },
    .of "gap" .text (·.gap) fun s x => { s with gap := x },
    .of "wrap" .bool (·.wrap) fun s x => { s with wrap := x }]

def GridLayout.record : Record GridLayout where
  name := "GridStyle"
  start := {}
  members := [
    .of "columns" .int32 (·.columns) fun s x => { s with columns := x },
    .of "rows" .int32 (·.rows) fun s x => { s with rows := x },
    .of "gap" .text (·.gap) fun s x => { s with gap := x },
    optionalText "templateColumns" (·.templateColumns) fun s x => { s with templateColumns := x },
    optionalText "templateRows" (·.templateRows) fun s x => { s with templateRows := x }]

def ContainerStyle.record : Record ContainerStyle where
  name := "ContainerStyle"
  start := {}
  members := [
    .of "layoutType" LayoutKind.codec (·.layout) fun s x => { s with layout := x },
    .of "flex" FlexLayout.record.codec (·.flex) fun s x => { s with flex := x },
    .of "grid" GridLayout.record.codec (·.grid) fun s x => { s with grid := x },
    optionalText "customCss" (·.box.customCss) fun s x => { s with box.customCss := x },
    optionalText "backgroundColor" (·.box.backgroundColor) fun s x => { s with box.backgroundColor := x },
    optionalText "padding" (·.box.padding) fun s x => { s with box.padding := x },
    optionalText "margin" (·.box.margin) fun s x => { s with box.margin := x },
    optionalText "border" (·.box.border) fun s x => { s with box.border := x }]

def FieldStyle.record : Record FieldStyle where
  name := "FieldStyle"
  start := {}
  members := [
    optionalText "cssClass" (·.cssClass) fun s x => { s with cssClass := x },
    optionalText "width" (·.width) fun s x => { s with width := x },
    optionalText "color" (·.color) fun s x => { s with color := x },
    optionalText "backgroundColor" (·.box.backgroundColor) fun s x => { s with box.backgroundColor := x },
    optionalText "padding" (·.box.padding) fun s x => { s with box.padding := x },
    optionalText "margin" (·.box.margin) fun s x => { s with box.margin := x },
    optionalText "border" (·.box.border) fun s x => { s with box.border := x },
    optionalText "customCss" (·.box.customCss) fun s x => { s with box.customCss := x }]

def Choice.record : Record Choice where
  name := "FieldOption"
  start := {}
  members := [
    .of "value" .nullableText (·.value) fun s x => { s with value := x },
    .of "text" .nullableText (·.text) fun s x => { s with text := x }]

def Rules.record : Record Rules where
  name := "FieldValidation"
  start := {}
  members := [
    .of "minLength" (.optional .count) (·.minLength) fun s x => { s with minLength := x },
    .of "maxLength" (.optional .count) (·.maxLength) fun s x => { s with maxLength := x },
    optionalText "pattern" (·.pattern) fun s x => { s with pattern := x },
    optionalText "errorMessage" (·.errorMessage) fun s x => { s with errorMessage := x }]

def Field.record : Record Field where
  name := "Field"
  start := {}
  members := [
    .of "id" .identifier (·.id) fun s x => { s with id := x },
    .of "fieldType" ControlKind.codec (·.kind) fun s x => { s with kind := x },
    .of "label" .nullableText (·.label) fun s x => { s with label := x },
    .of "name" .nullableText (·.name) fun s x => { s with name := x },
    .of "placeholder" .nullableText (·.placeholder) fun s x => { s with placeholder := x },
    .of "tooltip" .nullableText (·.tooltip) fun s x => { s with tooltip := x },
    optionalText "defaultValue" (·.defaultValue) fun s x => { s with defaultValue := x },
    .of "isRequired" .bool (·.isRequired) fun s x => { s with isRequired := x },
    .of "validation" Rules.record.codec (·.rules) fun s x => { s with rules := x },
    .of "style" FieldStyle.record.codec (·.style) fun s x => { s with style := x },
    .of "options" (.list Choice.record.codec) (·.choices) fun s x => { s with choices := x },
    .of "conditionalLogic" (.optional .value) (·.logic) fun s x => { s with logic := x }]

def Container.record : Record Container where
  name := "Container"
  start := {}
  members := [
    .of "id" .identifier (·.id) fun s x => { s with id := x },
    .of "type" ContainerKind.codec (·.kind) fun s x => { s with kind := x },
    .of "fields" (.list Field.record.codec) (·.fields) fun s x => { s with fields := x },
    .of "style" ContainerStyle.record.codec (·.style) fun s x => { s with style := x }]

def Step.record : Record Step where
  name := "Step"
  start := {}
  members := [
    .of "order" .int32 (·.order) fun s x => { s with order := x },
    .of "title" .nullableText (·.title) fun s x => { s with title := x },
    .of "containers" (.list Container.record.codec) (·.containers) fun s x => { s with containers := x }]

def Form.record : Record Form where
  name := "Form"
  start := {}
  members := [
    .of "id" .identifier (·.id) fun s x => { s with id := x },
    .of "title" .nullableText (·.title) fun s x => { s with title := x },
    .of "description" .nullableText (·.description) fun s x => { s with description := x },
    .of "containers" (.list Container.record.codec) (·.containers) fun s x => { s with containers := x },
    .of "isMultiStep" .bool (·.isMultiStep) fun s x => { s with isMultiStep := x },
    .of "steps" (.list Step.record.codec) (·.steps) fun s x => { s with steps := x },
    optionalText "customCss" (·.customCss) fun s x => { s with customCss := x },
    optionalText "customJs" (·.customJs) fun s x => { s with customJs := x }]

namespace Form

/-- Reads a form document. -/
def ofText (text : String) : Except Failure Form := record.codec.ofText text

/-- The document of a form, on indented lines. -/
def toText (f : Form) : String := record.codec.pretty f

/-- What is said about a text that is no form document. -/
def readMessage (text : String) (e : Failure) : String := "Invalid form document: " ++ e.message text.toList

end Form

end Webform
