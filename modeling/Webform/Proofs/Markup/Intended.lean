import Webform.Markup.Page
import Webform.Proofs.Markup.Lexing
import Webform.Proofs.Styling.Declared

/-!
# What the markup of a form is meant to be

The tree that the markup of a form is meant to be read as, told from the form alone: which elements there are, what they hold,
and what their attributes are. Texts and values stand as the author gave them; only the body of a style sheet or a script stands
as it is written, since what reads it does not take anything back.
-/

namespace Webform

open Markup

/-- An element with a text, which is there if the text is not empty. -/
def textElements (name : String) (as : List Attribute) (text : String) : List Tree :=
  if text = "" then [] else [.element name as [.text text]]

/-- An element with a text, which is there in any case. -/
def textElement (name : String) (as : List Attribute) (text : String) : Tree := .element name as (textTree text)

/-- The attribute of a setting that is absent or empty is left out. -/
def settingAttribute (name : String) (setting : Option String) : List Attribute :=
  match setting with
  | some v => if v = "" then [] else [.of name v]
  | none => []

/-- The style attribute: what the settings say, in order, and then what is left of the author's text. There is none if that is nothing. -/
def declaredAttribute (settings : List Setting) (css : Option String) : List Attribute :=
  match (settings.filterMap saidBy).map (fun d => d.1 ++ ": " ++ d.2 ++ ";") ++ ownTexts css with
  | [] => []
  | texts => [.of "style" (" ".intercalate texts)]

namespace Field

/-- The control of one line, of the type with the given name. The rules on the text are told where the type has a use for them. -/
def inputTree (f : Field) (type : String) (rules : List Attribute) : Tree :=
  .element "input" ([.of "type" type, .of "class" "form-control", .of "id" f.name, .of "name" f.name,
    .of "placeholder" f.placeholder] ++ settingAttribute "value" f.defaultValue ++ rules ++ flagAttribute f.isRequired "required") []

/-- The bounds on the length, in decimal. -/
def lengthRules (f : Field) : List Attribute :=
  settingAttribute "minlength" (f.rules.minLength.map fun n => toString n.toNat) ++
    settingAttribute "maxlength" (f.rules.maxLength.map fun n => toString n.toNat)

/-- The rules on the text of a control of one line. -/
def textRules (f : Field) : List Attribute := f.lengthRules ++ settingAttribute "pattern" f.rules.pattern

/-- The box of a choice with its label, in a block of their own. -/
def choiceTree (f : Field) (type : String) (required : List Attribute) (c : Choice) : Tree :=
  .element "div" [.of "class" "form-check"] [
    .element "input" ([.of "class" "form-check-input", .of "type" type, .of "id" (f.name ++ "_" ++ c.value), .of "name" f.name,
      .of "value" c.value] ++ flagAttribute (f.defaultValue = some c.value) "checked" ++ required) [],
    textElement "label" [.of "class" "form-check-label", .of "for" (f.name ++ "_" ++ c.value)] c.text]

/-- The control of a field, by its kind. -/
def controlTrees (f : Field) : List Tree :=
  match f.kind with
  | .text => [f.inputTree "text" f.textRules]
  | .email => [f.inputTree "email" f.textRules]
  | .number => [f.inputTree "number" []]
  | .textarea =>
    [.element "textarea" ([.of "class" "form-control", .of "id" f.name, .of "name" f.name, .of "placeholder" f.placeholder] ++
      f.lengthRules ++ flagAttribute f.isRequired "required") []]
  | .select =>
    [.element "select" ([.of "class" "form-select", .of "id" f.name, .of "name" f.name] ++ flagAttribute f.isRequired "required")
      (f.choices.map fun c =>
        textElement "option" (.of "value" c.value :: flagAttribute (f.defaultValue = some c.value) "selected") c.text)]
  | .checkbox => f.choices.map (f.choiceTree "checkbox" [])
  | .radio => f.choices.map (f.choiceTree "radio" (flagAttribute f.isRequired "required"))
  | .unknown _ => []

/-- The group of a field: its label, its control and its tooltip. The words of the author's classes stand after those of the group. -/
def tree (f : Field) : Tree :=
  .element "div" (.of "class" (" ".intercalate (["form-group", "mb-3"] ++ Text.words (f.style.cssClass.getD ""))) ::
    .of "data-field-id" f.id.toString :: declaredAttribute f.style.settings f.style.box.customCss)
    (textElements "label" [.of "for" f.name, .of "class" "form-label"] f.label ++ f.controlTrees ++
      textElements "small" [.of "class" "form-text text-muted"] f.tooltip)

end Field

/-- The classes that go with the layout in force. A direction that is empty has none. -/
def ContainerStyle.layoutClasses (s : ContainerStyle) : List String :=
  match s.layout with
  | .flex => ["d-flex"] ++ (if s.flex.direction = "" then [] else ["flex-" ++ s.flex.direction]) ++
      if s.flex.wrap then ["flex-wrap"] else []
  | .grid => ["grid-container"]
  | .columns => []

/-- The element of a container, which holds the groups of its fields. -/
def Container.tree (semantic : Bool) (c : Container) : Tree :=
  .element (if semantic then c.kind.element else "div")
    (.of "class" (" ".intercalate (["form-container"] ++ c.style.layoutClasses)) ::
      declaredAttribute c.style.settings c.style.box.customCss)
    (c.fields.map Field.tree)

namespace Form

/-- The body of a style sheet or a script, which is there if it is not empty. -/
def bodyElements (name : String) (text : Option String) : List Tree :=
  match text with
  | some t => if t = "" then [] else [.element name [] [.text (.ofList (escapeBody t.toList))]]
  | none => []

/-- The form's element with one element for each of its own containers, and after it the author's style sheet and script. -/
def fragmentTrees (semantic : Bool) (f : Form) : List Tree :=
  .element "form" [.of "id" ("form-" ++ f.id.toString), .of "class" "dynamic-form"] (f.containers.map (Container.tree semantic)) ::
    (bodyElements "style" f.customCss ++ bodyElements "script" f.customJs)

/-- The page of a form: the title in the head, title and description above the form. -/
def pageTree (o : RenderOptions) (f : Form) : Tree :=
  .element "html" [.of "lang" "en"] [
    .element "head" [] ([.element "meta" [.of "charset" "UTF-8"] [],
      .element "meta" [.of "name" "viewport", .of "content" "width=device-width, initial-scale=1.0"] []] ++
      textElements "title" [] f.title ++ bodyElements "style" (if o.styles then some defaultSheet else none)),
    .element "body" [] (textElements "h1" [.of "class" "form-title"] f.title ++
      textElements "p" [.of "class" "form-description"] f.description ++ f.fragmentTrees o.semantic)]

/-- What the markup of a form is meant to be read as. -/
def trees (o : RenderOptions) (f : Form) : List Tree := if o.fullDocument then [f.pageTree o] else f.fragmentTrees o.semantic

end Form

/-! ## The elements that are printed -/

theorem treesOf_append (ns ms : List Node) : treesOf (ns ++ ms) = treesOf ns ++ treesOf ms := by
  induction ns with
  | nil => rfl
  | cons n ns ih => simp [treesOf, ih]

theorem treesOf_map {α : Type} (node : α → Node) (tree : α → Tree) (h : ∀ a, (node a).tree = tree a) (as : List α) :
    treesOf (as.map node) = as.map tree := by
  induction as with
  | nil => rfl
  | cons a as ih => simp [treesOf, h, ih]

/-- An element with a text that is left out when the text is empty. -/
theorem treesOf_text (name : String) (as : List Attribute) (text : String) :
    treesOf (if text.isEmpty then [] else [.text name as text]) = textElements name as text := by
  by_cases h : text = ""
  · simp [h, textElements, treesOf]
  · simp [h, textElements, treesOf, Node.tree, textTree]

theorem filledAttribute_getD (name : String) (setting : Option String) :
    filledAttribute name (setting.getD "") = settingAttribute name setting := by
  cases setting <;> simp [filledAttribute, settingAttribute]

/-- A bound is told as soon as it is set. -/
theorem settingAttribute_bound (name : String) (bound : Option UInt64) :
    settingAttribute name (bound.map fun n => toString n.toNat) = Rules.boundAttribute name bound := by
  cases bound <;> simp [settingAttribute, Rules.boundAttribute]

/-- What is declared stands in the style attribute. -/
theorem Declares.styleAttribute_eq {s : Styling} {settings : List Setting} {css : Option String}
    (h : Declares settings css s.declarations (settings.filterMap saidBy) (ownTexts css)) :
    s.styleAttribute = declaredAttribute settings css := by
  rw [declaredAttribute, ← h.texts, Styling.styleAttribute, Styling.styleText]
  cases s.declarations <;> rfl

theorem isDefault_eq (f : Field) (value : String) : f.isDefault value = decide (f.defaultValue = some value) := by
  simp [Field.isDefault, Bool.beq_eq_decide_eq]

namespace Field

theorem lengthAttributes_eq (f : Field) : f.rules.lengthAttributes = f.lengthRules := by
  rw [Rules.lengthAttributes, lengthRules, settingAttribute_bound, settingAttribute_bound]

theorem tree_inputNode (f : Field) :
    f.inputNode.tree = f.inputTree f.kind.tag (if f.kind.isTextual then f.textRules else []) := by
  simp [inputNode, inputTree, textRules, lengthAttributes_eq, Node.tree, handles, requiredAttribute, Rules.patternAttribute,
    filledAttribute_getD]

theorem tree_choiceNode (f : Field) (type : String) (required : List Attribute) (c : Choice) :
    (f.choiceNode type required c).tree = f.choiceTree type required c := by
  simp [choiceNode, choiceTree, Node.tree, treesOf, choiceKey, isDefault_eq, textElement]

theorem treesOf_control (f : Field) : treesOf f.control = f.controlTrees := by
  unfold control controlTrees
  cases h : f.kind with
  | text | email | number => simp [treesOf, tree_inputNode, h, ControlKind.tag, ControlKind.isTextual]
  | textarea => simp [treesOf, textareaNode, lengthAttributes_eq, Node.tree, handles, requiredAttribute, textTree]
  | select =>
    have hoption : ∀ c : Choice,
        (Node.text "option" (.of "value" c.value :: flagAttribute (f.isDefault c.value) "selected") c.text).tree =
          textElement "option" (.of "value" c.value :: flagAttribute (f.defaultValue = some c.value) "selected") c.text := by
      intro c
      simp [Node.tree, textElement, isDefault_eq]
    simp [treesOf, selectNode, Node.tree, handles, requiredAttribute, treesOf_map _ _ hoption]
  | checkbox => simp [treesOf_map _ _ (tree_choiceNode f "checkbox" [])]
  | radio => simp [treesOf_map _ _ (tree_choiceNode f "radio" _), requiredAttribute]
  | unknown tag => simp [treesOf]

theorem tree_node (f : Field) : f.node.tree = f.tree := by
  simp only [node, tree, Node.tree, treesOf_append, treesOf_control, labelNodes, tooltipNodes, treesOf_text,
    f.style.declares.styleAttribute_eq]
  rfl

end Field

theorem ContainerStyle.classes_styling (s : ContainerStyle) : s.styling.classes = s.layoutClasses := by
  unfold styling layoutStyling layoutClasses
  cases s.layout <;> simp [FlexLayout.classes]

theorem Container.tree_node (semantic : Bool) (c : Container) : (c.node semantic).tree = c.tree semantic := by
  simp only [node, tree, Node.tree, treesOf_map _ _ Field.tree_node, c.style.declares.styleAttribute_eq, Styling.classAttribute,
    c.style.classes_styling]

namespace Form

theorem treesOf_textNodes (name : String) (as : List Attribute) (text : String) :
    treesOf (textNodes name as text) = textElements name as text := treesOf_text name as text

theorem treesOf_bodyNodes (name : String) (text : Option String) : treesOf (bodyNodes name text) = bodyElements name text := by
  cases text with
  | none => rfl
  | some t =>
    by_cases h : t = ""
    · simp [h, bodyNodes, bodyElements, treesOf]
    · have hne : escapeBody t.toList ≠ [] := by
        intro hnil
        have hhead := head?_escapeBody t.toList
        rw [hnil, List.head?_nil, eq_comm, List.head?_eq_none_iff, String.toList_eq_nil_iff] at hhead
        exact h hhead
      simp [h, bodyNodes, bodyElements, treesOf, Node.tree, textTree, hne]

theorem treesOf_nodes (semantic : Bool) (f : Form) : treesOf (f.nodes semantic) = f.fragmentTrees semantic := by
  simp [nodes, fragmentTrees, treesOf, treesOf_append, treesOf_bodyNodes, node, Node.tree,
    treesOf_map _ _ (Container.tree_node semantic)]

/-- The default style sheet is a body that is never empty. -/
theorem treesOf_defaultSheet (styles : Bool) :
    treesOf (if styles then [.body "style" defaultSheet] else []) =
      bodyElements "style" (if styles then some defaultSheet else none) := by
  have hne : defaultSheet ≠ "" := by
    rw [defaultSheet, ne_eq, ← String.toList_eq_nil_iff, String.toList_ofList]
    simp
  cases styles
  · rfl
  · rw [if_pos rfl, if_pos rfl, ← treesOf_bodyNodes]
    simp [bodyNodes, hne]

/-- The elements that are printed are those that are meant. -/
theorem treesOf_elements (o : RenderOptions) (f : Form) : treesOf (f.elements o) = f.trees o := by
  unfold elements trees
  split
  · simp [treesOf, Node.tree, pageTree, headNodes, introNodes, treesOf_append, treesOf_textNodes, treesOf_nodes,
      treesOf_defaultSheet]
  · exact treesOf_nodes o.semantic f

end Form

end Webform
