import Webform.Form.Basic
import Webform.Markup.Control
import Webform.Markup.Printer
import Webform.Markup.Stylesheet

/-!
# Pages

The markup of a form, alone or as a page of its own. A page has the form's title and description above the form; its head is always
indented, whatever is asked for the rest.
-/

namespace Webform

open Markup

/-- What is asked for the markup of a form. `styles` puts the default style sheet into the head of a page; with `semantic` a
container stands as the element of its kind and not as a plain block. -/
structure RenderOptions where
  fullDocument : Bool := false
  styles : Bool := true
  escape : Bool := true
  indent : Bool := true
  semantic : Bool := false
deriving DecidableEq, Repr, Inhabited

def RenderOptions.layout (o : RenderOptions) : Layout := ⟨o.escape, o.indent⟩

/-- The markup of a container. -/
def Container.node (semantic : Bool) (c : Container) : Node :=
  let s := c.style.styling
  .block (if semantic then c.kind.element else "div") (s.classAttribute ["form-container"] :: s.styleAttribute)
    (c.fields.map Field.node)

namespace Form

/-- The form's element. -/
def node (semantic : Bool) (f : Form) : Node :=
  .block "form" [.of "id" ("form-" ++ f.id.toString), .of "class" "dynamic-form"] (f.containers.map (Container.node semantic))

/-- A style sheet or a script of the author's, if there is any. -/
def bodyNodes (name : String) (text : Option String) : List Node :=
  match text with
  | some t => if t.isEmpty then [] else [.body name t]
  | none => []

/-- The form's element with the author's style sheet and script after it. -/
def nodes (semantic : Bool) (f : Form) : List Node :=
  f.node semantic :: bodyNodes "style" f.customCss ++ bodyNodes "script" f.customJs

/-- An element with a text, if the text is not empty. -/
def textNodes (name : String) (attributes : List Attribute) (text : String) : List Node :=
  if text.isEmpty then [] else [.text name attributes text]

/-- What the head of a page holds. -/
def headNodes (styles : Bool) (f : Form) : List Node :=
  [.void "meta" [.of "charset" "UTF-8"] false,
    .void "meta" [.of "name" "viewport", .of "content" "width=device-width, initial-scale=1.0"] false] ++
    textNodes "title" [] f.title ++ (if styles then [.body "style" defaultSheet] else [])

/-- What stands above the form on a page. -/
def introNodes (f : Form) : List Node :=
  textNodes "h1" [.of "class" "form-title"] f.title ++ textNodes "p" [.of "class" "form-description"] f.description

/-- The markup of a form alone. -/
def fragment (o : RenderOptions) (depth : Nat) (f : Form) : List Char :=
  printAll o.layout depth (f.nodes o.semantic)

/-- A page with the form. -/
def page (o : RenderOptions) (f : Form) : List Char :=
  "<!DOCTYPE html>\n".toList ++ frame o.layout [] "html" [.of "lang" "en"]
    (frame o.layout [] "head" [] (printAll { o.layout with indented := true } 1 (f.headNodes o.styles)) ++
      frame o.layout [] "body" [] (printAll o.layout 1 f.introNodes ++ f.fragment o 1))

/-- The elements that the markup of a form is made of: those of the form alone, or the one element of a page. -/
def elements (o : RenderOptions) (f : Form) : List Node :=
  if o.fullDocument then
    [.block "html" [.of "lang" "en"]
      [.block "head" [] (f.headNodes o.styles), .block "body" [] (f.introNodes ++ f.nodes o.semantic)]]
  else f.nodes o.semantic

/-- The markup of a form. -/
def render (o : RenderOptions) (f : Form) : String :=
  .ofList (if o.fullDocument then f.page o else f.fragment o 0)

end Form

end Webform
