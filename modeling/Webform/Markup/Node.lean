/-!
# Markup trees

The markup of a form as a tree. An element holds either a text, or a raw body, or other elements, or nothing at all; which of them is
part of the tree, so that a tree says where the text of a document ends and its layout begins.
-/

namespace Webform.Markup

/-- An attribute of an element; one without a value stands by its name alone. -/
structure Attribute where
  name : String
  value : Option String := none
deriving DecidableEq, Repr, Inhabited

/-- The attribute with a value. -/
def Attribute.of (name value : String) : Attribute := ⟨name, some value⟩

/-- The attribute that stands by its name, when a condition holds. -/
def flagAttribute (condition : Bool) (name : String) : List Attribute :=
  if condition then [⟨name, none⟩] else []

/-- The attribute with a value that is left out when it is empty. -/
def filledAttribute (name value : String) : List Attribute :=
  if value.isEmpty then [] else [.of name value]

/-- An element of a tree. -/
inductive Node where
  /-- An element that never holds anything; `slash` tells whether its tag is marked as closed. -/
  | void (name : String) (attributes : List Attribute) (slash : Bool)
  /-- An element that holds a text. -/
  | text (name : String) (attributes : List Attribute) (text : String)
  /-- A style sheet or a script. -/
  | body (name : String) (text : String)
  /-- An element that holds elements, each on lines of its own. -/
  | block (name : String) (attributes : List Attribute) (children : List Node)
deriving Repr, Inhabited

end Webform.Markup
