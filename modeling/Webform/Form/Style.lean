/-!
# Styles

How a container lays its fields out and how containers and fields look. A container carries the settings of both the flex and the
grid layout; its layout kind tells which are in force. The settings that containers and fields share are those of a `Box`.
-/

namespace Webform

/-- How a container places its fields. -/
inductive LayoutKind where
  | flex
  | grid
  | columns
deriving DecidableEq, Repr, Inhabited

/-- The settings of a flex layout. -/
structure FlexLayout where
  direction : String := "row"
  justifyContent : String := "flex-start"
  alignItems : String := "stretch"
  gap : String := "0"
  wrap : Bool := false
deriving DecidableEq, Repr, Inhabited

/-- The settings of a grid layout. The counts are kept as they were given, whatever their sign; a template for the columns or rows
goes before the count. -/
structure GridLayout where
  columns : Int32 := 1
  rows : Int32 := 1
  gap : String := "0"
  templateColumns : Option String := none
  templateRows : Option String := none
deriving DecidableEq, Repr, Inhabited

/-- The settings of the box around a container or a field, and declarations of the author's own. -/
structure Box where
  backgroundColor : Option String := none
  padding : Option String := none
  margin : Option String := none
  border : Option String := none
  customCss : Option String := none
deriving DecidableEq, Repr, Inhabited

/-- The style of a container. -/
structure ContainerStyle where
  layout : LayoutKind := .flex
  flex : FlexLayout := {}
  grid : GridLayout := {}
  box : Box := {}
deriving DecidableEq, Repr, Inhabited

/-- The style of a field. -/
structure FieldStyle where
  cssClass : Option String := none
  width : Option String := none
  color : Option String := none
  box : Box := {}
deriving DecidableEq, Repr, Inhabited

/-- A field style is empty when none of its settings is present, not even as an empty text. -/
def FieldStyle.isEmpty (s : FieldStyle) : Bool := s == {}

end Webform
