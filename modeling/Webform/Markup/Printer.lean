import Webform.Markup.Escape
import Webform.Markup.Node

/-!
# Printing markup

`Node.print` writes an element on lines of its own. The two choices of a `Layout` are independent: whether texts are escaped, and
whether a line is indented by its depth.
-/

namespace Webform.Markup

/-- How markup is written. -/
structure Layout where
  escaped : Bool := true
  indented : Bool := true
deriving DecidableEq, Repr, Inhabited

namespace Layout

/-- The blanks at the start of a line at a depth. -/
def indent (l : Layout) (depth : Nat) : List Char :=
  if l.indented then List.replicate (2 * depth) ' ' else []

/-- A text, or the value of an attribute. -/
def text (l : Layout) (s : String) : List Char :=
  if l.escaped then escape s.toList else s.toList

/-- The body of a style sheet or a script. -/
def body (l : Layout) (s : String) : List Char :=
  if l.escaped then escapeBody s.toList else s.toList

end Layout

/-- An attribute, after the blank that sets it off. -/
def Attribute.print (l : Layout) (a : Attribute) : List Char :=
  match a.value with
  | some v => ' ' :: a.name.toList ++ ['=', '"'] ++ l.text v ++ ['"']
  | none => ' ' :: a.name.toList

/-- The start of an element's tag, up to its last attribute. -/
def printStart (l : Layout) (name : String) (attributes : List Attribute) : List Char :=
  '<' :: name.toList ++ attributes.flatMap (·.print l)

/-- The tag that ends an element. -/
def printEnd (name : String) : List Char := '<' :: '/' :: name.toList ++ ['>']

/-- An element on lines of its own, which start with `lead`, around the lines it holds. -/
def frame (l : Layout) (lead : List Char) (name : String) (attributes : List Attribute) (lines : List Char) : List Char :=
  lead ++ printStart l name attributes ++ ['>', '\n'] ++ lines ++ lead ++ printEnd name ++ ['\n']

mutual

/-- An element at a depth, on lines of its own. -/
def Node.print (l : Layout) (depth : Nat) : Node → List Char
  | .void name attributes slash =>
    l.indent depth ++ printStart l name attributes ++ (if slash then [' ', '/', '>', '\n'] else ['>', '\n'])
  | .text name attributes text =>
    l.indent depth ++ printStart l name attributes ++ ['>'] ++ l.text text ++ printEnd name ++ ['\n']
  | .body name text => l.indent depth ++ printStart l name [] ++ ['>'] ++ l.body text ++ printEnd name ++ ['\n']
  | .block name attributes children => frame l (l.indent depth) name attributes (printAll l (depth + 1) children)

/-- Elements at a depth, one after another. -/
def printAll (l : Layout) (depth : Nat) : List Node → List Char
  | [] => []
  | n :: ns => n.print l depth ++ printAll l depth ns

end

end Webform.Markup
