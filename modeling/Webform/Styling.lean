import Webform.Form.Style
import Webform.Text.Blank

/-!
# What a style comes to

A style comes to a list of classes and a list of inline declarations, both in an order that is fixed for all styles. Only the layout
in force counts, a setting that is absent or empty is not declared, and the author's own declarations stand last.
-/

namespace Webform

/-- A declaration: a property that is set to a value, or free text of the author's. -/
inductive Declaration where
  | set (property value : String)
  | free (css : String)
deriving DecidableEq, Repr, Inhabited

/-- A declaration as it stands in a style attribute. -/
def Declaration.text : Declaration → String
  | set property value => property ++ ": " ++ value ++ ";"
  | free css => css

/-- Classes and declarations, in order. -/
structure Styling where
  classes : List String := []
  declarations : List Declaration := []
deriving DecidableEq, Repr, Inhabited

namespace Styling

/-- The value of a class attribute. -/
def classText (s : Styling) : String := " ".intercalate s.classes

/-- The value of a style attribute. -/
def styleText (s : Styling) : String := " ".intercalate (s.declarations.map Declaration.text)

/-- Whether there is nothing to show. -/
def isEmpty (s : Styling) : Bool := s.classes.isEmpty && s.declarations.isEmpty

end Styling

/-- The declaration of a property: none for an empty value. -/
def declare (property value : String) : List Declaration :=
  if value.isEmpty then [] else [.set property value]

/-- The declaration of a property that may be absent. -/
def declareOptional (property : String) (value : Option String) : List Declaration :=
  declare property (value.getD "")

/-- The author's own declarations without the blanks around them, if anything is left. -/
def declareFree (css : Option String) : List Declaration :=
  let text := Text.trim (css.getD "")
  if text.isEmpty then [] else [.free text]

namespace Box

/-- The declarations of a box. -/
def declarations (b : Box) : List Declaration :=
  declareOptional "background-color" b.backgroundColor ++ declareOptional "padding" b.padding ++
    declareOptional "margin" b.margin ++ declareOptional "border" b.border ++ declareFree b.customCss

end Box

namespace FlexLayout

/-- The classes of a flex layout: an empty direction has none. -/
def classes (l : FlexLayout) : List String :=
  ["d-flex"] ++ (if l.direction.isEmpty then [] else ["flex-" ++ l.direction]) ++ (if l.wrap then ["flex-wrap"] else [])

def declarations (l : FlexLayout) : List Declaration :=
  declare "justify-content" l.justifyContent ++ declare "align-items" l.alignItems ++ declare "gap" l.gap

end FlexLayout

namespace GridLayout

/-- The tracks of the columns: the template, or as many equal ones as there are columns when the template is absent or empty. -/
def columnTracks (l : GridLayout) : String :=
  match l.templateColumns with
  | some t => if t.isEmpty then equalTracks else t
  | none => equalTracks
where
  equalTracks : String := "repeat(" ++ toString l.columns.toInt ++ ", 1fr)"

def declarations (l : GridLayout) : List Declaration :=
  declare "grid-template-columns" l.columnTracks ++ declareOptional "grid-template-rows" l.templateRows ++ declare "gap" l.gap

end GridLayout

namespace ContainerStyle

/-- What the layout in force comes to. -/
def layoutStyling (s : ContainerStyle) : Styling :=
  match s.layout with
  | .flex => ⟨s.flex.classes, s.flex.declarations⟩
  | .grid => ⟨["grid-container"], s.grid.declarations⟩
  | .columns => {}

/-- What the style of a container comes to. -/
def styling (s : ContainerStyle) : Styling :=
  { s.layoutStyling with declarations := s.layoutStyling.declarations ++ s.box.declarations }

end ContainerStyle

namespace FieldStyle

/-- What the style of a field comes to: the words of its class setting are its classes. -/
def styling (s : FieldStyle) : Styling where
  classes := Text.words (s.cssClass.getD "")
  declarations := declareOptional "width" s.width ++ declareOptional "color" s.color ++ s.box.declarations

end FieldStyle

end Webform
