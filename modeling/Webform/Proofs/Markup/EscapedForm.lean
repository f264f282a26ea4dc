import Webform.Markup.Page
import Webform.Proofs.Markup.EscapedTexts

/-!
# Forms that are escaped before they are shown

Escaping could be done on the form and not on its markup: `Form.escaped` is the form with all texts escaped that markup can show, and
its markup without escaping is the markup of the form with escaping (`Form.render_escaped`). What the markup of a form hangs on,
which texts are empty, which choice is the default and which words a setting holds, is the same for the escaped form.
-/

namespace Webform

open Markup

/-! ## The escaped form -/

def Box.escaped (b : Box) : Box where
  backgroundColor := b.backgroundColor.map escapeText
  padding := b.padding.map escapeText
  margin := b.margin.map escapeText
  border := b.border.map escapeText
  customCss := b.customCss.map escapeText

def FlexLayout.escaped (l : FlexLayout) : FlexLayout :=
  { l with
    direction := escapeText l.direction, justifyContent := escapeText l.justifyContent, alignItems := escapeText l.alignItems
    gap := escapeText l.gap }

def GridLayout.escaped (l : GridLayout) : GridLayout :=
  { l with
    gap := escapeText l.gap, templateColumns := l.templateColumns.map escapeText
    templateRows := l.templateRows.map escapeText }

def ContainerStyle.escaped (s : ContainerStyle) : ContainerStyle :=
  { s with flex := s.flex.escaped, grid := s.grid.escaped, box := s.box.escaped }

def FieldStyle.escaped (s : FieldStyle) : FieldStyle where
  cssClass := s.cssClass.map escapeText
  width := s.width.map escapeText
  color := s.color.map escapeText
  box := s.box.escaped

def Choice.escaped (c : Choice) : Choice := ⟨escapeText c.value, escapeText c.text⟩

/-- The message for a text that breaks the rules is no part of the markup and is left as it is. -/
def Rules.escaped (r : Rules) : Rules := { r with pattern := r.pattern.map escapeText }

def Field.escaped (f : Field) : Field :=
  { f with
    label := escapeText f.label, name := escapeText f.name, placeholder := escapeText f.placeholder
    tooltip := escapeText f.tooltip, defaultValue := f.defaultValue.map escapeText, rules := f.rules.escaped
    style := f.style.escaped, choices := f.choices.map Choice.escaped }

def Container.escaped (c : Container) : Container := { c with fields := c.fields.map Field.escaped, style := c.style.escaped }

def Step.escaped (s : Step) : Step := { s with containers := s.containers.map Container.escaped }

/-- The form with every text escaped that its markup can show, in the way of the place where it is shown. -/
def Form.escaped (f : Form) : Form :=
  { f with
    title := escapeText f.title, description := escapeText f.description, containers := f.containers.map Container.escaped
    steps := f.steps.map Step.escaped, customCss := f.customCss.map escapeBodyText, customJs := f.customJs.map escapeBodyText }

/-! ## Escaped elements -/

namespace Markup

def Attribute.escaped (a : Attribute) : Attribute := { a with value := a.value.map escapeText }

@[simp] theorem Attribute.escaped_of (name value : String) : (Attribute.of name value).escaped = .of name (escapeText value) := rfl

mutual

/-- An element with the texts in it escaped. -/
def Node.escaped : Node → Node
  | .void name as slash => .void name (as.map Attribute.escaped) slash
  | .text name as text => .text name (as.map Attribute.escaped) (escapeText text)
  | .body name text => .body name (escapeBodyText text)
  | .block name as children => .block name (as.map Attribute.escaped) (escapedAll children)

def escapedAll : List Node → List Node
  | [] => []
  | n :: ns => n.escaped :: escapedAll ns

end

theorem escapedAll_eq_map (ns : List Node) : escapedAll ns = ns.map Node.escaped := by
  induction ns with
  | nil => rfl
  | cons n ns ih => rw [escapedAll, ih, List.map_cons]

/-! ## Printing -/

theorem Attribute.print_escaped (indented : Bool) (a : Attribute) : a.print ⟨true, indented⟩ = a.escaped.print ⟨false, indented⟩ := by
  obtain ⟨name, value⟩ := a
  cases value <;> simp [print, escaped, Layout.text]

theorem printStart_escaped (indented : Bool) (name : String) (as : List Attribute) :
    printStart ⟨true, indented⟩ name as = printStart ⟨false, indented⟩ name (as.map Attribute.escaped) := by
  simp [printStart, List.flatMap_map, Attribute.print_escaped]

theorem frame_escaped (indented : Bool) (lead : List Char) (name : String) (as : List Attribute) (lines : List Char) :
    frame ⟨true, indented⟩ lead name as lines = frame ⟨false, indented⟩ lead name (as.map Attribute.escaped) lines := by
  rw [frame, frame, printStart_escaped]

mutual

/-- An element is printed with escaping as the escaped element is without. -/
theorem Node.print_escaped (indented : Bool) :
    ∀ (n : Node) (depth : Nat), n.print ⟨true, indented⟩ depth = n.escaped.print ⟨false, indented⟩ depth
  | .void name as slash, depth => by
    simp only [Node.print, Node.escaped, printStart_escaped]
    rfl
  | .text name as text, depth => by
    simp only [Node.print, Node.escaped, printStart_escaped, Layout.text, toList_escapeText]
    rfl
  | .body name text, depth => by
    simp only [Node.print, Node.escaped, printStart_escaped, Layout.body, escapeBodyText, String.toList_ofList]
    rfl
  | .block name as children, depth => by
    simp only [Node.print, Node.escaped, frame_escaped, printAll_escaped indented children]
    rfl

theorem printAll_escaped (indented : Bool) :
    ∀ (ns : List Node) (depth : Nat), printAll ⟨true, indented⟩ depth ns = printAll ⟨false, indented⟩ depth (escapedAll ns)
  | [], _ => rfl
  | n :: ns, depth => by rw [printAll, escapedAll, printAll, n.print_escaped, printAll_escaped indented ns]

end

end Markup

/-! ## Styles -/

theorem getD_map_escapeText (t : Option String) : (t.map escapeText).getD "" = escapeText (t.getD "") := by
  cases t <;> rfl

def Declaration.escaped : Declaration → Declaration
  | .set property value => .set (escapeText property) (escapeText value)
  | .free css => .free (escapeText css)

theorem Declaration.text_escaped (d : Declaration) : d.escaped.text = escapeText d.text := by
  cases d with
  | set property value =>
    have hcolon : escapeText ": " = ": " := rfl
    have hsemicolon : escapeText ";" = ";" := rfl
    rw [escaped, text, text, escapeText_append, escapeText_append, escapeText_append, hcolon, hsemicolon]
  | free css => rfl

theorem declare_escaped {property : String} (h : IsPlain property) (value : String) :
    declare property (escapeText value) = (declare property value).map Declaration.escaped := by
  unfold declare
  rw [isEmpty_escapeText]
  split
  · rfl
  · rw [List.map_singleton, Declaration.escaped, h.escapeText_eq]

theorem declareOptional_escaped {property : String} (h : IsPlain property) (value : Option String) :
    declareOptional property (value.map escapeText) = (declareOptional property value).map Declaration.escaped := by
  rw [declareOptional, declareOptional, getD_map_escapeText, declare_escaped h]

theorem declareFree_escaped (css : Option String) :
    declareFree (css.map escapeText) = (declareFree css).map Declaration.escaped := by
  unfold declareFree
  rw [getD_map_escapeText, trim_escapeText]
  simp only [isEmpty_escapeText]
  split <;> rfl

theorem Box.declarations_escaped (b : Box) : b.escaped.declarations = b.declarations.map Declaration.escaped := by
  simp (disch := decide) only [declarations, escaped, declareOptional_escaped, declareFree_escaped, List.map_append]

namespace Styling

def escaped (s : Styling) : Styling := ⟨s.classes.map escapeText, s.declarations.map Declaration.escaped⟩

theorem styleText_escaped (s : Styling) : s.escaped.styleText = escapeText s.styleText := by
  rw [styleText, styleText, escapeText_intercalate (by decide), escaped, List.map_map, List.map_map]
  congr 2
  funext d
  exact d.text_escaped

theorem styleAttribute_escaped (s : Styling) : s.escaped.styleAttribute = s.styleAttribute.map Attribute.escaped := by
  have hempty : s.escaped.declarations.isEmpty = s.declarations.isEmpty := List.isEmpty_map
  unfold styleAttribute
  rw [hempty, styleText_escaped]
  split <;> rfl

/-- The class attribute of an element with classes of its own that are plain. -/
theorem classAttribute_escaped (s : Styling) {own : List String} (h : own.map escapeText = own) :
    s.escaped.classAttribute own = (s.classAttribute own).escaped := by
  rw [classAttribute, classAttribute, Attribute.escaped_of, escapeText_intercalate (by decide), List.map_append, h]
  rfl

end Styling

theorem FlexLayout.classes_escaped (l : FlexLayout) : l.escaped.classes = l.classes.map escapeText := by
  have hdirection : l.escaped.direction = escapeText l.direction := rfl
  have hwrap : l.escaped.wrap = l.wrap := rfl
  have hown : ["d-flex"].map escapeText = ["d-flex"] := rfl
  have hword : escapeText "flex-" = "flex-" := rfl
  have hwrapped : ["flex-wrap"].map escapeText = ["flex-wrap"] := rfl
  rw [classes, classes, List.map_append, List.map_append, hown, hdirection, hwrap, isEmpty_escapeText]
  cases l.direction.isEmpty <;> cases l.wrap <;> simp [escapeText_append, hword, hwrapped]

theorem FlexLayout.declarations_escaped (l : FlexLayout) : l.escaped.declarations = l.declarations.map Declaration.escaped := by
  simp (disch := decide) only [declarations, escaped, declare_escaped, List.map_append]

theorem GridLayout.columnTracks_escaped (l : GridLayout) : l.escaped.columnTracks = escapeText l.columnTracks := by
  have hequal : IsPlain (columnTracks.equalTracks l) :=
    isPlain_append (isPlain_append (by decide) (isPlain_toString_int _)) (by decide)
  unfold columnTracks escaped
  cases l.templateColumns with
  | none => exact hequal.escapeText_eq.symm
  | some t =>
    simp only [Option.map_some, isEmpty_escapeText]
    split
    · exact hequal.escapeText_eq.symm
    · rfl

theorem GridLayout.declarations_escaped (l : GridLayout) : l.escaped.declarations = l.declarations.map Declaration.escaped := by
  have hrows : l.escaped.templateRows = l.templateRows.map escapeText := rfl
  have hgap : l.escaped.gap = escapeText l.gap := rfl
  simp (disch := decide) only [declarations, columnTracks_escaped, hrows, hgap, declareOptional_escaped, declare_escaped,
    List.map_append]

theorem ContainerStyle.styling_escaped (s : ContainerStyle) : s.escaped.styling = s.styling.escaped := by
  have hlayout : s.escaped.layoutStyling = s.layoutStyling.escaped := by
    simp only [layoutStyling, escaped]
    split
    · rw [FlexLayout.classes_escaped, FlexLayout.declarations_escaped]
      rfl
    · rw [GridLayout.declarations_escaped]
      rfl
    · rfl
  have hbox : s.escaped.box = s.box.escaped := rfl
  simp only [styling, hlayout, hbox, Box.declarations_escaped, Styling.escaped, List.map_append]

theorem FieldStyle.styling_escaped (s : FieldStyle) : s.escaped.styling = s.styling.escaped := by
  simp (disch := decide) only [styling, escaped, Styling.escaped, getD_map_escapeText, words_escapeText, declareOptional_escaped,
    Box.declarations_escaped, List.map_append]

/-! ## Fields -/

theorem flagAttribute_escaped (condition : Bool) (name : String) :
    (flagAttribute condition name).map Attribute.escaped = flagAttribute condition name := by
  unfold flagAttribute
  split <;> rfl

theorem filledAttribute_escaped (name value : String) :
    filledAttribute name (escapeText value) = (filledAttribute name value).map Attribute.escaped := by
  unfold filledAttribute
  rw [isEmpty_escapeText]
  split <;> rfl

theorem Rules.boundAttribute_escaped (name : String) (bound : Option UInt64) :
    (boundAttribute name bound).map Attribute.escaped = boundAttribute name bound := by
  cases bound with
  | none => rfl
  | some n => rw [boundAttribute, List.map_singleton, Attribute.escaped_of, (isPlain_toString_nat _).escapeText_eq]

theorem Rules.lengthAttributes_escaped (r : Rules) :
    r.escaped.lengthAttributes = r.lengthAttributes.map Attribute.escaped := by
  rw [lengthAttributes, lengthAttributes, List.map_append, boundAttribute_escaped, boundAttribute_escaped]
  rfl

theorem Rules.patternAttribute_escaped (r : Rules) :
    r.escaped.patternAttribute = r.patternAttribute.map Attribute.escaped := by
  rw [patternAttribute, patternAttribute, ← filledAttribute_escaped, ← getD_map_escapeText]
  rfl

theorem Identifier.isPlain_toString (i : Identifier) : IsPlain i.toString :=
  i.forall_mem_toString (by decide) (by decide)

namespace Field

variable (f : Field)

theorem handles_escaped : f.escaped.handles = f.handles.map Attribute.escaped := rfl

theorem requiredAttribute_escaped : f.escaped.requiredAttribute = f.requiredAttribute.map Attribute.escaped :=
  (flagAttribute_escaped f.isRequired "required").symm

/-- Escaped values are equal only if the values are. -/
theorem isDefault_escaped (value : String) : f.escaped.isDefault (escapeText value) = f.isDefault value := by
  unfold isDefault escaped
  cases f.defaultValue with
  | none => rfl
  | some d =>
    rw [Bool.eq_iff_iff]
    simp

theorem choiceKey_escaped (c : Choice) : f.escaped.choiceKey c.escaped = escapeText (f.choiceKey c) := by
  rw [choiceKey, choiceKey, escapeText_append, escapeText_append]
  rfl

theorem labelNodes_escaped : f.escaped.labelNodes = f.labelNodes.map Node.escaped := by
  have hlabel : f.escaped.label = escapeText f.label := rfl
  unfold labelNodes
  rw [hlabel, isEmpty_escapeText]
  split <;> rfl

theorem tooltipNodes_escaped : f.escaped.tooltipNodes = f.tooltipNodes.map Node.escaped := by
  have htooltip : f.escaped.tooltip = escapeText f.tooltip := rfl
  unfold tooltipNodes
  rw [htooltip, isEmpty_escapeText]
  split <;> rfl

/-- The type of the control is the field's tag, so the tag of a control of one line has to be plain. -/
theorem inputNode_escaped {f : Field} (h : IsPlain f.kind.tag) : f.escaped.inputNode = f.inputNode.escaped := by
  have hvalue : f.escaped.defaultValue.getD "" = escapeText (f.defaultValue.getD "") := getD_map_escapeText f.defaultValue
  have hrules : (if f.kind.isTextual then f.rules.escaped.lengthAttributes ++ f.rules.escaped.patternAttribute else []) =
      (if f.kind.isTextual then f.rules.lengthAttributes ++ f.rules.patternAttribute else []).map Attribute.escaped := by
    split
    · rw [List.map_append, f.rules.lengthAttributes_escaped, f.rules.patternAttribute_escaped]
    · rfl
  have htag : Attribute.of "type" f.kind.tag = (Attribute.of "type" f.kind.tag).escaped := by
    rw [Attribute.escaped_of, h.escapeText_eq]
  simp only [inputNode, Node.escaped, List.map_append, ← hrules, hvalue, filledAttribute_escaped, requiredAttribute_escaped,
    handles_escaped, List.map_cons, ← htag]
  rfl

theorem textareaNode_escaped : f.escaped.textareaNode = f.textareaNode.escaped := by
  have hrules : f.escaped.rules = f.rules.escaped := rfl
  simp only [textareaNode, Node.escaped, List.map_append, List.map_cons, hrules, Rules.lengthAttributes_escaped,
    requiredAttribute_escaped, handles_escaped]
  rfl

theorem selectNode_escaped : f.escaped.selectNode = f.selectNode.escaped := by
  have hoption : ∀ c : Choice,
      Node.text "option" (.of "value" c.escaped.value :: flagAttribute (f.escaped.isDefault c.escaped.value) "selected")
          c.escaped.text =
        (Node.text "option" (.of "value" c.value :: flagAttribute (f.isDefault c.value) "selected") c.text).escaped := by
    intro c
    rw [Node.escaped, List.map_cons, flagAttribute_escaped, Choice.escaped, isDefault_escaped]
    rfl
  have hchoices : f.escaped.choices = f.choices.map Choice.escaped := rfl
  simp only [selectNode, Node.escaped, escapedAll_eq_map, List.map_map, List.map_append, List.map_cons,
    requiredAttribute_escaped, handles_escaped, hchoices]
  exact congrArg (Node.block "select" _) (List.map_congr_left fun c _ => hoption c)

theorem choiceNode_escaped {type : String} (htype : IsPlain type) {required : List Attribute}
    (hrequired : required.map Attribute.escaped = required) (c : Choice) :
    f.escaped.choiceNode type required c.escaped = (f.choiceNode type required c).escaped := by
  have hdefault : f.escaped.isDefault c.escaped.value = f.isDefault c.value := f.isDefault_escaped c.value
  simp only [choiceNode, Node.escaped, escapedAll, List.map_append, List.map_cons, flagAttribute_escaped, hrequired, hdefault,
    choiceKey_escaped, Attribute.escaped_of, htype.escapeText_eq]
  rfl

theorem choiceNodes_escaped {type : String} (htype : IsPlain type) {required : List Attribute}
    (hrequired : required.map Attribute.escaped = required) :
    f.escaped.choices.map (f.escaped.choiceNode type required) = (f.choices.map (f.choiceNode type required)).map Node.escaped := by
  have hchoices : f.escaped.choices = f.choices.map Choice.escaped := rfl
  rw [hchoices, List.map_map, List.map_map]
  exact List.map_congr_left fun c _ => f.choiceNode_escaped htype hrequired c

theorem control_escaped : f.escaped.control = f.control.map Node.escaped := by
  have hkind : f.escaped.kind = f.kind := rfl
  have hrequired := flagAttribute_escaped f.isRequired "required"
  unfold control
  rw [hkind]
  cases h : f.kind with
  | text => exact congrArg (fun n => [n]) (inputNode_escaped (by rw [h]; decide))
  | email => exact congrArg (fun n => [n]) (inputNode_escaped (by rw [h]; decide))
  | number => exact congrArg (fun n => [n]) (inputNode_escaped (by rw [h]; decide))
  | textarea => exact congrArg (fun n => [n]) f.textareaNode_escaped
  | select => exact congrArg (fun n => [n]) f.selectNode_escaped
  | checkbox => exact f.choiceNodes_escaped (by decide) rfl
  | radio => exact f.choiceNodes_escaped (by decide) hrequired
  | unknown tag => rfl

theorem node_escaped : f.escaped.node = f.node.escaped := by
  have hstyling : f.escaped.style.styling = f.style.styling.escaped := f.style.styling_escaped
  have hid : Attribute.of "data-field-id" f.id.toString = (Attribute.of "data-field-id" f.id.toString).escaped := by
    rw [Attribute.escaped_of, f.id.isPlain_toString.escapeText_eq]
  have hown : ["form-group", "mb-3"].map escapeText = ["form-group", "mb-3"] := rfl
  simp only [node, Node.escaped, escapedAll_eq_map, List.map_append, List.map_cons, hstyling,
    Styling.classAttribute_escaped _ hown, Styling.styleAttribute_escaped, labelNodes_escaped, control_escaped,
    tooltipNodes_escaped, ← hid]
  rfl

end Field

/-! ## Forms -/

theorem Container.node_escaped (semantic : Bool) (c : Container) : c.escaped.node semantic = (c.node semantic).escaped := by
  have hstyling : c.escaped.style.styling = c.style.styling.escaped := c.style.styling_escaped
  have hfields : c.escaped.fields.map Field.node = (c.fields.map Field.node).map Node.escaped := by
    rw [escaped, List.map_map, List.map_map]
    exact List.map_congr_left fun g _ => g.node_escaped
  have hkind : c.escaped.kind = c.kind := rfl
  have hown : ["form-container"].map escapeText = ["form-container"] := rfl
  simp only [node, Node.escaped, escapedAll_eq_map, List.map_cons, hstyling, hfields, hkind,
    Styling.classAttribute_escaped _ hown, Styling.styleAttribute_escaped]

namespace Form

variable (f : Form)

theorem node_escaped (semantic : Bool) : f.escaped.node semantic = (f.node semantic).escaped := by
  have hcontainers : f.escaped.containers.map (Container.node semantic) =
      (f.containers.map (Container.node semantic)).map Node.escaped := by
    rw [escaped, List.map_map, List.map_map]
    exact List.map_congr_left fun c _ => c.node_escaped semantic
  have hid : escapeText ("form-" ++ f.id.toString) = "form-" ++ f.id.toString :=
    (isPlain_append (by decide) f.id.isPlain_toString).escapeText_eq
  simp only [node, Node.escaped, escapedAll_eq_map, List.map_cons, hcontainers, Attribute.escaped_of, hid]
  rfl

theorem bodyNodes_escaped (name : String) (text : Option String) :
    bodyNodes name (text.map escapeBodyText) = (bodyNodes name text).map Node.escaped := by
  cases text with
  | none => rfl
  | some t =>
    simp only [Option.map_some, bodyNodes, isEmpty_escapeBodyText]
    split <;> rfl

theorem nodes_escaped (semantic : Bool) : f.escaped.nodes semantic = (f.nodes semantic).map Node.escaped := by
  rw [nodes, nodes, List.map_append, List.map_cons, ← bodyNodes_escaped, ← bodyNodes_escaped, node_escaped]
  rfl

theorem textNodes_escaped (name : String) {as : List Attribute} (h : as.map Attribute.escaped = as) (text : String) :
    textNodes name as (escapeText text) = (textNodes name as text).map Node.escaped := by
  unfold textNodes
  rw [isEmpty_escapeText]
  split
  · rfl
  · rw [List.map_singleton, Node.escaped, h]

theorem introNodes_escaped : f.escaped.introNodes = f.introNodes.map Node.escaped := by
  rw [introNodes, introNodes, List.map_append, ← textNodes_escaped "h1" rfl, ← textNodes_escaped "p" rfl]
  rfl

/-- There is no slash in the default style sheet. -/
theorem escapeBodyText_defaultSheet : escapeBodyText defaultSheet = defaultSheet := by
  have hrules : ∀ r ∈ defaultRules, '/' ∉ r.print := by decide +kernel
  have hslash : '/' ∉ defaultSheet.toList := by
    simpa [defaultSheet] using hrules
  exact escapeBodyText_of_plain fun h => hslash (h.subset (by simp))

theorem headNodes_escaped (styles : Bool) : f.escaped.headNodes styles = (f.headNodes styles).map Node.escaped := by
  have hsheet : (if styles then [Node.body "style" defaultSheet] else []).map Node.escaped =
      if styles then [.body "style" defaultSheet] else [] := by
    split
    · rw [List.map_singleton, Node.escaped, escapeBodyText_defaultSheet]
    · rfl
  rw [headNodes, headNodes, List.map_append, List.map_append, hsheet, ← textNodes_escaped "title" rfl]
  rfl

theorem fragment_escaped (o : RenderOptions) (depth : Nat) :
    f.fragment { o with escape := true } depth = f.escaped.fragment { o with escape := false } depth := by
  rw [fragment, fragment, nodes_escaped, ← escapedAll_eq_map]
  exact printAll_escaped o.indent _ depth

theorem page_escaped (o : RenderOptions) : f.page { o with escape := true } = f.escaped.page { o with escape := false } := by
  have hhead : printAll ⟨true, true⟩ 1 (f.headNodes o.styles) = printAll ⟨false, true⟩ 1 (f.escaped.headNodes o.styles) := by
    rw [printAll_escaped, escapedAll_eq_map, ← headNodes_escaped]
  have hintro : printAll ⟨true, o.indent⟩ 1 f.introNodes = printAll ⟨false, o.indent⟩ 1 f.escaped.introNodes := by
    rw [printAll_escaped, escapedAll_eq_map, ← introNodes_escaped]
  unfold page
  simp only [RenderOptions.layout]
  rw [frame_escaped, frame_escaped, frame_escaped, hhead, hintro, fragment_escaped]
  rfl

/-- The steps are no part of the markup. -/
theorem render_steps (o : RenderOptions) (ss : List Step) : ({ f with steps := ss } : Form).render o = f.render o := rfl

end Form

/-! ## Plain forms -/

/-- The texts of a box that its markup can show. -/
def Box.texts (b : Box) : List String :=
  b.backgroundColor.toList ++ b.padding.toList ++ b.margin.toList ++ b.border.toList ++ b.customCss.toList

def ContainerStyle.texts (s : ContainerStyle) : List String :=
  [s.flex.direction, s.flex.justifyContent, s.flex.alignItems, s.flex.gap, s.grid.gap] ++ s.grid.templateColumns.toList ++
    s.grid.templateRows.toList ++ s.box.texts

def FieldStyle.texts (s : FieldStyle) : List String :=
  s.cssClass.toList ++ s.width.toList ++ s.color.toList ++ s.box.texts

def Choice.texts (c : Choice) : List String := [c.value, c.text]

def Field.texts (f : Field) : List String :=
  [f.label, f.name, f.placeholder, f.tooltip] ++ f.defaultValue.toList ++ f.rules.pattern.toList ++ f.style.texts ++
    f.choices.flatMap Choice.texts

def Container.texts (c : Container) : List String := c.style.texts ++ c.fields.flatMap Field.texts

/-- The texts of a form that its markup can show, apart from its style sheet and its script. -/
def Form.texts (f : Form) : List String := [f.title, f.description] ++ f.containers.flatMap Container.texts

theorem map_escapeText_of_plain {t : Option String} (h : ∀ s ∈ t.toList, IsPlain s) : t.map escapeText = t := by
  cases t with
  | none => rfl
  | some s => rw [Option.map_some, (h s (by simp)).escapeText_eq]

theorem Box.escaped_of_plain {b : Box} (h : ∀ t ∈ b.texts, IsPlain t) : b.escaped = b := by
  simp only [texts, List.forall_mem_append] at h
  obtain ⟨⟨⟨⟨hbackground, hpadding⟩, hmargin⟩, hborder⟩, hcss⟩ := h
  rw [escaped, map_escapeText_of_plain hbackground, map_escapeText_of_plain hpadding, map_escapeText_of_plain hmargin,
    map_escapeText_of_plain hborder, map_escapeText_of_plain hcss]

theorem ContainerStyle.escaped_of_plain {s : ContainerStyle} (h : ∀ t ∈ s.texts, IsPlain t) : s.escaped = s := by
  simp only [texts, List.forall_mem_append, List.forall_mem_cons] at h
  obtain ⟨⟨⟨⟨hdirection, hjustify, halign, hgap, hgridGap, -⟩, hcolumns⟩, hrows⟩, hbox⟩ := h
  rw [escaped, FlexLayout.escaped, GridLayout.escaped, Box.escaped_of_plain hbox, map_escapeText_of_plain hcolumns,
    map_escapeText_of_plain hrows, hdirection.escapeText_eq, hjustify.escapeText_eq, halign.escapeText_eq, hgap.escapeText_eq,
    hgridGap.escapeText_eq]

theorem FieldStyle.escaped_of_plain {s : FieldStyle} (h : ∀ t ∈ s.texts, IsPlain t) : s.escaped = s := by
  simp only [texts, List.forall_mem_append] at h
  obtain ⟨⟨⟨hclass, hwidth⟩, hcolor⟩, hbox⟩ := h
  rw [escaped, map_escapeText_of_plain hclass, map_escapeText_of_plain hwidth, map_escapeText_of_plain hcolor,
    Box.escaped_of_plain hbox]

theorem Choice.escaped_of_plain {c : Choice} (h : ∀ t ∈ c.texts, IsPlain t) : c.escaped = c := by
  rw [escaped, (h c.value (by simp [texts])).escapeText_eq, (h c.text (by simp [texts])).escapeText_eq]

theorem Field.escaped_of_plain {f : Field} (h : ∀ t ∈ f.texts, IsPlain t) : f.escaped = f := by
  simp only [texts, List.forall_mem_append, List.forall_mem_cons] at h
  obtain ⟨⟨⟨⟨⟨hlabel, hname, hplaceholder, htooltip, -⟩, hdefault⟩, hpattern⟩, hstyle⟩, hchoices⟩ := h
  have hchoice : f.choices.map Choice.escaped = f.choices :=
    (List.map_congr_left fun c hc => Choice.escaped_of_plain fun t ht => hchoices t (List.mem_flatMap.2 ⟨c, hc, ht⟩)).trans
      (List.map_id' _)
  rw [escaped, Rules.escaped, hlabel.escapeText_eq, hname.escapeText_eq, hplaceholder.escapeText_eq, htooltip.escapeText_eq,
    map_escapeText_of_plain hdefault, map_escapeText_of_plain hpattern, FieldStyle.escaped_of_plain hstyle, hchoice]

theorem Container.escaped_of_plain {c : Container} (h : ∀ t ∈ c.texts, IsPlain t) : c.escaped = c := by
  simp only [texts, List.forall_mem_append] at h
  obtain ⟨hstyle, hfields⟩ := h
  have hfield : c.fields.map Field.escaped = c.fields :=
    (List.map_congr_left fun f hf => Field.escaped_of_plain fun t ht => hfields t (List.mem_flatMap.2 ⟨f, hf, ht⟩)).trans
      (List.map_id' _)
  rw [escaped, ContainerStyle.escaped_of_plain hstyle, hfield]

/-- A body in which no end tag starts. -/
def IsPlainBody (body : Option String) : Prop := ∀ t ∈ body, ¬['<', '/'] <:+: t.toList

theorem map_escapeBodyText_of_plain {body : Option String} (h : IsPlainBody body) : body.map escapeBodyText = body := by
  cases body with
  | none => rfl
  | some t => rw [Option.map_some, escapeBodyText_of_plain (h t rfl)]

namespace Form

/-- Nothing is escaped in a plain form but what its steps hold. -/
theorem escaped_of_plain {f : Form} (h : ∀ t ∈ f.texts, IsPlain t) (hcss : IsPlainBody f.customCss) (hjs : IsPlainBody f.customJs) :
    f.escaped = { f with steps := f.escaped.steps } := by
  simp only [texts, List.forall_mem_append, List.forall_mem_cons] at h
  obtain ⟨⟨htitle, hdescription, -⟩, hcontainers⟩ := h
  have hcontainer : f.containers.map Container.escaped = f.containers :=
    (List.map_congr_left fun c hc => Container.escaped_of_plain fun t ht => hcontainers t (List.mem_flatMap.2 ⟨c, hc, ht⟩)).trans
      (List.map_id' _)
  rw [escaped, htitle.escapeText_eq, hdescription.escapeText_eq, map_escapeBodyText_of_plain hcss,
    map_escapeBodyText_of_plain hjs, hcontainer]

/-- The markup of a form with escaping is the markup of the escaped form without. For a form with plain texts, no end tag in its
style sheet and none in its script, both ways of writing the markup come to the same. -/
theorem render_escaped (o : RenderOptions) (f : Form) :
    f.render { o with escape := true } = f.escaped.render { o with escape := false } ∧
      ((∀ t ∈ f.texts, IsPlain t) → IsPlainBody f.customCss → IsPlainBody f.customJs →
        f.render { o with escape := true } = f.render { o with escape := false }) := by
  have hescaped : f.render { o with escape := true } = f.escaped.render { o with escape := false } := by
    simp only [render]
    rw [page_escaped, fragment_escaped]
  refine ⟨hescaped, fun h hcss hjs => ?_⟩
  rw [hescaped, escaped_of_plain h hcss hjs, render_steps]

/-- A plain form, whose style sheet may hold a `<` that starts no end tag. -/
theorem render_escaped_plain_field :
    let f : Form := {
      title := "Visit", customCss := some "a < b"
      containers := [{ fields := [{ label := "Name", name := "name", rules := { pattern := some "[a-z]+" } }] }] }
    ((∀ t ∈ f.texts, IsPlain t) ∧ IsPlainBody f.customCss ∧ IsPlainBody f.customJs) ∧
      f.render { escape := true } = f.render { escape := false } := by
  intro f
  have htexts : ∀ t ∈ f.texts, IsPlain t := by decide +kernel
  have hcss : IsPlainBody f.customCss := by
    rintro t ⟨rfl⟩
    decide +kernel
  have hjs : IsPlainBody f.customJs := fun t ht => by cases ht
  exact ⟨⟨htexts, hcss, hjs⟩, (f.render_escaped {}).2 htexts hcss hjs⟩

end Form

end Webform
