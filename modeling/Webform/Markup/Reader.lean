import Webform.Markup.Escape
import Webform.Markup.Node

/-!
# Reading markup

A reader for markup that knows nothing of forms: it cuts a text into tags and texts (`Token`), and puts them together into trees
(`Tree`). Entities are decoded in texts and in the values of attributes; the body of a style sheet or a script is taken as it stands
and runs to the first start of an end tag. `Node.tree` is the tree that an element is meant to be read as when it has been printed
with its texts escaped.
-/

namespace Webform.Markup

/-- An element with what it holds, or a text. -/
inductive Tree where
  | element (name : String) (attributes : List Attribute) (children : List Tree)
  | text (text : String)
deriving Repr, Inhabited

/-- A piece of markup. -/
inductive Token where
  | startTag (name : String) (attributes : List Attribute)
  | endTag (name : String)
  | text (text : String)
deriving DecidableEq, Repr

/-- The elements that have no end tag. -/
def isVoid (name : String) : Bool := name == "input" || name == "meta"

/-- The elements whose body is taken as it stands. -/
def isRaw (name : String) : Bool := name == "style" || name == "script"

/-- The elements that hold nothing but elements; what else stands in them is layout. -/
def holdsElements (name : String) : Bool :=
  ["html", "head", "body", "form", "div", "section", "fieldset", "select"].contains name

/-! ## Tokens -/

/-- Whether a character may stand in the name of an element or of an attribute. -/
def isNameChar (c : Char) : Bool := c.isAlphanum || c == '-'

/-- Reads the attributes of a start tag and its end; each round reads one attribute. -/
def readAttributes? : Nat → List Char → Option (List Attribute × List Char)
  | 0, _ => none
  | _ + 1, '>' :: r => some ([], r)
  | _ + 1, ' ' :: '/' :: '>' :: r => some ([], r)
  | n + 1, ' ' :: r =>
    let name : String := .ofList (r.takeWhile isNameChar)
    match r.dropWhile isNameChar with
    | '=' :: '"' :: r =>
      match r.dropWhile (· != '"') with
      | [] => none
      | _ :: rest =>
        (readAttributes? n rest).map fun p => (.of name (.ofList (decode (r.takeWhile (· != '"')))) :: p.1, p.2)
    | r => (readAttributes? n r).map fun p => (⟨name, none⟩ :: p.1, p.2)
  | _ + 1, _ => none

/-- Cuts a text before the first start of an end tag. -/
def cutAtEndTag : List Char → List Char × List Char
  | [] => ([], [])
  | '<' :: '/' :: r => ([], '<' :: '/' :: r)
  | c :: r => (c :: (cutAtEndTag r).1, (cutAtEndTag r).2)

/-- A text, unless it is empty. -/
def textTokens (cs : List Char) : List Token := if cs.isEmpty then [] else [.text (.ofList cs)]

/-- Cuts markup into tokens; each round takes one tag or one text. -/
def tokens? : Nat → List Char → Option (List Token)
  | _, [] => some []
  | 0, _ => none
  | n + 1, '<' :: '/' :: r =>
    match r.dropWhile isNameChar with
    | '>' :: rest => (tokens? n rest).map (.endTag (.ofList (r.takeWhile isNameChar)) :: ·)
    | _ => none
  | n + 1, '<' :: r =>
    let name : String := .ofList (r.takeWhile isNameChar)
    match readAttributes? (r.length + 1) (r.dropWhile isNameChar) with
    | none => none
    | some (attributes, rest) =>
      let (body, rest) := if isRaw name then cutAtEndTag rest else ([], rest)
      (tokens? n rest).map fun ts => .startTag name attributes :: textTokens body ++ ts
  | n + 1, c :: r =>
    let text := (c :: r).takeWhile (· != '<')
    (tokens? n ((c :: r).dropWhile (· != '<'))).map (textTokens (decode text) ++ ·)

/-! ## Trees -/

/-- An element whose end tag has not been reached, with the trees before it, last first. -/
structure OpenElement where
  name : String
  attributes : List Attribute
  before : List Tree

/-- The elements that are open, innermost first, and the trees read in the innermost, last first. -/
structure Building where
  opened : List OpenElement := []
  done : List Tree := []

/-- Takes one token. An end tag ends the innermost element, which has its name. -/
def Building.step? (b : Building) : Token → Option Building
  | .text t => some { b with done := .text t :: b.done }
  | .startTag name attributes =>
    if isVoid name then some { b with done := .element name attributes [] :: b.done }
    else some ⟨⟨name, attributes, b.done⟩ :: b.opened, []⟩
  | .endTag name =>
    match b.opened with
    | [] => none
    | e :: es => if e.name = name then some ⟨es, .element e.name e.attributes b.done.reverse :: e.before⟩ else none

/-- The trees of tokens in which every element is closed. -/
def build? (ts : List Token) : Option (List Tree) :=
  match ts.foldlM Building.step? {} with
  | some ⟨[], done⟩ => some done.reverse
  | _ => none

/-- What may stand before the markup of a page. -/
def doctype : List Char := "<!DOCTYPE html>".toList

/-- Reads markup. -/
def read? (cs : List Char) : Option (List Tree) :=
  let cs := if doctype.isPrefixOf cs then cs.drop doctype.length else cs
  (tokens? (cs.length + 1) cs).bind build?

/-- Whether a tree is a text of blanks and line breaks alone. -/
def Tree.isLayout : Tree → Bool
  | .text t => t.toList.all fun c => c == ' ' || c == '\n'
  | .element .. => false

mutual

/-- A tree without the line breaks and blanks between the elements in it. -/
def Tree.withoutLayout : Tree → Tree
  | .text t => .text t
  | .element name attributes children => .element name attributes (withoutLayoutIn (holdsElements name) children)

/-- Trees without the line breaks and blanks in them, and between them if there should be elements only. -/
def withoutLayoutIn (elementsOnly : Bool) : List Tree → List Tree
  | [] => []
  | t :: ts =>
    if elementsOnly && t.isLayout then withoutLayoutIn elementsOnly ts
    else t.withoutLayout :: withoutLayoutIn elementsOnly ts

end

/-! ## What elements are read as -/

/-- The text of an element; an empty one is not there. -/
def textTree (text : String) : List Tree := if text.isEmpty then [] else [.text text]

mutual

/-- The tree that an escaped element is read as: the body of a style sheet or a script keeps its backslashes. -/
def Node.tree : Node → Tree
  | .void name attributes _ => .element name attributes []
  | .text name attributes text => .element name attributes (textTree text)
  | .body name text => .element name [] (textTree (.ofList (escapeBody text.toList)))
  | .block name attributes children => .element name attributes (treesOf children)

/-- The trees that elements are read as. -/
def treesOf : List Node → List Tree
  | [] => []
  | n :: ns => n.tree :: treesOf ns

end

end Webform.Markup
