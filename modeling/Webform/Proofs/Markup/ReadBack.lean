import Webform.Proofs.Markup.Building
import Webform.Proofs.Markup.Intended

/-!
# The markup of a form, read back

Whatever the author of a form writes into it, the escaped markup is read as the tree that is meant (`read?_render`): nothing in a
text, a value of an attribute, a style sheet or a script can open or close an element. The elements of a form are all legible, so
this is what is known of legible elements, put around by the frame of a page.
-/

namespace Webform

open Markup

/-! ## The elements of a form are legible -/

theorem Styling.named_styleAttribute (s : Styling) : Named s.styleAttribute := by
  unfold styleAttribute
  split
  · exact named_nil
  · exact named_of_names ["style"] rfl (by decide)

theorem Styling.isName_classAttribute (s : Styling) (own : List String) : IsName (s.classAttribute own).name := by
  show IsName "class"
  decide

theorem Rules.named_boundAttribute {name : String} (h : IsName name) (bound : Option UInt64) :
    Named (boundAttribute name bound) := by
  cases bound <;> simp [boundAttribute, Attribute.of, h]

theorem Rules.named_lengthAttributes (r : Rules) : Named r.lengthAttributes := by
  rw [lengthAttributes, named_append]
  exact ⟨named_boundAttribute (by decide) _, named_boundAttribute (by decide) _⟩

theorem Rules.named_patternAttribute (r : Rules) : Named r.patternAttribute := named_filledAttribute _ (by decide)

/-- An element with a text that may be left out. -/
theorem legible_text {name : String} {as : List Attribute} (text : String) (h : (Node.text name as text).Legible) :
    ∀ n ∈ (if text.isEmpty then [] else [.text name as text] : List Node), n.Legible := by
  intro n hn
  split at hn
  · exact absurd hn List.not_mem_nil
  · exact List.mem_singleton.1 hn ▸ h

namespace Field

theorem named_handles (f : Field) : Named f.handles := named_of_names ["id", "name"] rfl (by decide)

theorem named_requiredAttribute (f : Field) : Named f.requiredAttribute := named_flagAttribute _ (by decide)

theorem legible_inputNode (f : Field) : f.inputNode.Legible := by
  refine .void _ _ _ (by decide) ?_ (by decide) (by decide)
  have hrules : Named (if f.kind.isTextual then f.rules.lengthAttributes ++ f.rules.patternAttribute else []) := by
    split
    · exact (named_append _ _).2 ⟨f.rules.named_lengthAttributes, f.rules.named_patternAttribute⟩
    · exact named_nil
  simp only [named_append]
  exact ⟨⟨⟨⟨⟨named_of_names ["type", "class"] rfl (by decide), f.named_handles⟩, named_of_names ["placeholder"] rfl (by decide)⟩,
    named_filledAttribute _ (by decide)⟩, hrules⟩, f.named_requiredAttribute⟩

theorem legible_textareaNode (f : Field) : f.textareaNode.Legible := by
  refine .text _ _ _ (by decide) ?_ (by decide) (by decide) (by decide)
  simp only [named_append]
  exact ⟨⟨⟨named_of_names ["class", "id", "name"] rfl (by decide), named_of_names ["placeholder"] rfl (by decide)⟩,
    f.rules.named_lengthAttributes⟩, f.named_requiredAttribute⟩

theorem legible_selectNode (f : Field) : f.selectNode.Legible := by
  refine .block _ _ _ (by decide) ?_ (by decide) (by decide) (by decide) fun n hn => ?_
  · exact (named_append _ _).2 ⟨named_of_names ["class", "id", "name"] rfl (by decide), f.named_requiredAttribute⟩
  · obtain ⟨c, -, rfl⟩ := List.mem_map.1 hn
    refine .text _ _ _ (by decide) ?_ (by decide) (by decide) (by decide)
    exact (named_cons _ _).2 ⟨by show IsName "value"; decide, named_flagAttribute _ (by decide)⟩

theorem legible_choiceNode (f : Field) (type : String) {required : List Attribute} (h : Named required) (c : Choice) :
    (f.choiceNode type required c).Legible := by
  refine .block _ _ _ (by decide) (named_of_names ["class"] rfl (by decide)) (by decide) (by decide) (by decide) fun n hn => ?_
  simp only [List.mem_cons, List.not_mem_nil, or_false] at hn
  rcases hn with rfl | rfl
  · refine .void _ _ _ (by decide) ?_ (by decide) (by decide)
    simp only [named_append]
    exact ⟨⟨named_of_names ["class", "type", "id", "name", "value"] rfl (by decide), named_flagAttribute _ (by decide)⟩, h⟩
  · exact .text _ _ _ (by decide) (named_of_names ["class", "for"] rfl (by decide)) (by decide) (by decide) (by decide)

theorem legible_control (f : Field) : ∀ n ∈ f.control, n.Legible := by
  intro n hn
  unfold control at hn
  split at hn
  case h_4 => exact List.mem_singleton.1 hn ▸ f.legible_textareaNode
  case h_5 => exact List.mem_singleton.1 hn ▸ f.legible_selectNode
  case h_6 =>
    obtain ⟨c, -, rfl⟩ := List.mem_map.1 hn
    exact f.legible_choiceNode _ named_nil c
  case h_7 =>
    obtain ⟨c, -, rfl⟩ := List.mem_map.1 hn
    exact f.legible_choiceNode _ f.named_requiredAttribute c
  case h_8 => exact absurd hn List.not_mem_nil
  all_goals exact List.mem_singleton.1 hn ▸ f.legible_inputNode

theorem legible_node (f : Field) : f.node.Legible := by
  refine .block _ _ _ (by decide) ?_ (by decide) (by decide) (by decide) fun n hn => ?_
  · simp only [named_cons]
    exact ⟨f.style.styling.isName_classAttribute _, by show IsName "data-field-id"; decide, f.style.styling.named_styleAttribute⟩
  · rw [List.mem_append, List.mem_append] at hn
    rcases hn with (hn | hn) | hn
    · exact legible_text f.label (.text _ _ _ (by decide)
        (named_of_names ["for", "class"] rfl (by decide)) (by decide) (by decide) (by decide)) n hn
    · exact f.legible_control n hn
    · exact legible_text f.tooltip (.text _ _ _ (by decide)
        (named_of_names ["class"] rfl (by decide)) (by decide) (by decide) (by decide)) n hn

end Field

theorem Container.legible_node (semantic : Bool) (c : Container) : (c.node semantic).Legible := by
  have hkind : ∀ k : ContainerKind, let name := if semantic then k.element else "div"
      IsName name ∧ isVoid name = false ∧ isRaw name = false ∧ holdsElements name = true := by
    intro k
    cases semantic <;> cases k <;> decide
  obtain ⟨hname, hvoid, hraw, hholds⟩ := hkind c.kind
  refine .block _ _ _ hname ?_ hvoid hraw hholds fun n hn => ?_
  · exact (named_cons _ _).2 ⟨c.style.styling.isName_classAttribute _, c.style.styling.named_styleAttribute⟩
  · obtain ⟨f, -, rfl⟩ := List.mem_map.1 hn
    exact f.legible_node

namespace Form

theorem legible_bodyNodes {name : String} (text : Option String) (h : ∀ t, (Node.body name t).Legible) :
    ∀ n ∈ bodyNodes name text, n.Legible := by
  intro n hn
  unfold bodyNodes at hn
  split at hn
  · split at hn
    · exact absurd hn List.not_mem_nil
    · exact List.mem_singleton.1 hn ▸ h _
  · exact absurd hn List.not_mem_nil

theorem legible_style (text : String) : (Node.body "style" text).Legible :=
  .body _ _ (by decide) (by decide) (by decide) (by decide)

theorem legible_script (text : String) : (Node.body "script" text).Legible :=
  .body _ _ (by decide) (by decide) (by decide) (by decide)

theorem legible_nodes (semantic : Bool) (f : Form) : ∀ n ∈ f.nodes semantic, n.Legible := by
  intro n hn
  rw [nodes, List.cons_append, List.mem_cons, List.mem_append] at hn
  rcases hn with rfl | hn | hn
  · refine .block _ _ _ (by decide) (named_of_names ["id", "class"] rfl (by decide)) (by decide) (by decide) (by decide)
      fun n hn => ?_
    obtain ⟨c, -, rfl⟩ := List.mem_map.1 hn
    exact c.legible_node semantic
  · exact legible_bodyNodes _ legible_style n hn
  · exact legible_bodyNodes _ legible_script n hn

theorem legible_headNodes (styles : Bool) (f : Form) : ∀ n ∈ f.headNodes styles, n.Legible := by
  intro n hn
  simp only [headNodes, List.mem_append, List.mem_cons, List.not_mem_nil, or_false] at hn
  rcases hn with ((rfl | rfl) | hn) | hn
  · exact .void _ _ _ (by decide) (named_of_names ["charset"] rfl (by decide)) (by decide) (by decide)
  · exact .void _ _ _ (by decide) (named_of_names ["name", "content"] rfl (by decide)) (by decide) (by decide)
  · exact legible_text f.title (.text _ _ _ (by decide) named_nil (by decide) (by decide) (by decide)) n hn
  · split at hn
    · exact List.mem_singleton.1 hn ▸ legible_style _
    · exact absurd hn List.not_mem_nil

theorem legible_introNodes (f : Form) : ∀ n ∈ f.introNodes, n.Legible := by
  intro n hn
  rw [introNodes, List.mem_append] at hn
  rcases hn with hn | hn
  · exact legible_text f.title (.text _ _ _ (by decide)
      (named_of_names ["class"] rfl (by decide)) (by decide) (by decide) (by decide)) n hn
  · exact legible_text f.description (.text _ _ _ (by decide)
      (named_of_names ["class"] rfl (by decide)) (by decide) (by decide) (by decide)) n hn

end Form

/-! ## Reading whole markup -/

/-- Markup that adds trees is read as them and the line break at its end; a document type before it is passed over. -/
theorem Markup.Adds.read? {cs : List Char} {ts : List Tree} (h : Adds cs ts) :
    (doctype.isPrefixOf (cs ++ ['\n']) = false → Markup.read? (cs ++ ['\n']) = some (ts ++ [.text "\n"])) ∧
      Markup.read? (doctype ++ cs ++ ['\n']) = some (ts ++ [.text "\n"]) := by
  obtain ⟨tokens, hlex, hstep⟩ := h
  have htokens := hlex _ _ Lexes.lineEnd _ (Nat.lt_succ_self _)
  have hbuild : build? (tokens ++ [.text "\n"]) = some (ts ++ [.text "\n"]) := by
    simp [build?, List.foldlM_append, hstep, Building.step?, Option.bind]
  constructor
  · intro hno
    simp only [Markup.read?, hno, Bool.false_eq_true, if_false, htokens, Option.bind_some, hbuild]
  · have hdrop : (doctype ++ cs ++ ['\n']).drop doctype.length = cs ++ ['\n'] := by simp
    have hyes : doctype.isPrefixOf (doctype ++ cs ++ ['\n']) = true := by simp
    simp only [Markup.read?, hyes, if_true, hdrop, htokens, Option.bind_some, hbuild]

variable {l : Layout}

/-- A frame at the start of a line, around lines that add trees. -/
theorem Markup.Adds.frame {lines cs : List Char} {ts : List Tree} (h : Adds cs ts) (hl : l.escaped = true) (name : String)
    {as : List Attribute} (hname : IsName name) (has : Named as) (hvoid : isVoid name = false) (hraw : isRaw name = false)
    (hlines : '\n' :: lines = cs ++ ['\n']) :
    ∃ ds, Markup.frame l [] name as lines = '<' :: ds ++ ['\n'] ∧ Adds ('<' :: ds) [.element name as (ts ++ [lineTree l 0])] := by
  have hadds := Adds.element hl hname has hvoid hraw h 0
  refine ⟨name.toList ++ as.flatMap (·.print l) ++ ['>'] ++ cs ++ lineStart l 0 ++ printEnd name, ?_, ?_⟩
  · calc Markup.frame l [] name as lines = printStart l name as ++ ['>'] ++ ('\n' :: lines) ++ printEnd name ++ ['\n'] := by
          simp [Markup.frame]
      _ = _ := by rw [hlines]; simp [printStart, lineStart]
  · simpa [printStart] using hadds

theorem Markup.printAll_append (l : Layout) (depth : Nat) (ns ms : List Node) :
    printAll l depth (ns ++ ms) = printAll l depth ns ++ printAll l depth ms := by
  induction ns with
  | nil => rfl
  | cons n ns ih => simp [printAll, ih]

/-- Legible elements after a line break. -/
theorem Markup.exists_adds_printAll (hl : l.escaped = true) {ns : List Node} (h : ∀ n ∈ ns, n.Legible) (depth : Nat) :
    ∃ cs ts, '\n' :: printAll l depth ns = cs ++ ['\n'] ∧ Adds cs ts ∧ withoutLayoutIn true ts = treesOf ns := by
  obtain ⟨ts, hadds, htrees⟩ := exists_adds_lines (fun n hn => (h n hn).readable hl) depth
  exact ⟨_, ts, lineBreak_printAll l depth ns, hadds, htrees⟩

namespace Form

variable {o : RenderOptions}

/-- The markup of a form alone, as what is read before the line break at its end. -/
theorem exists_adds_fragment (ho : o.escape = true) (f : Form) :
    ∃ cs ts, f.fragment o 0 = '<' :: cs ++ ['\n'] ∧ Adds ('<' :: cs) ts ∧
      withoutLayoutIn true ts = treesOf (f.nodes o.semantic) ∧ doctype.isPrefixOf ('<' :: cs ++ ['\n']) = false := by
  have hlegible := f.legible_nodes o.semantic
  obtain ⟨first, rest, hnodes⟩ : ∃ first rest, f.nodes o.semantic = first :: rest := ⟨_, _, rfl⟩
  have hfirst : first = f.node o.semantic := (List.cons.inj hnodes).1.symm
  rw [hnodes] at hlegible
  obtain ⟨t, hadds, htree, hlayout⟩ := (hlegible first (by simp)).readable (l := o.layout) ho 0
  obtain ⟨ds, ts, hlines, haddsRest, htrees⟩ :=
    exists_adds_printAll (l := o.layout) ho (fun n hn => hlegible n (List.mem_cons_of_mem first hn)) 0
  obtain ⟨cs, hcs⟩ := first.exists_inner_eq o.layout 0
  have hprint : f.fragment o 0 = '<' :: (cs ++ ds) ++ ['\n'] := by
    calc f.fragment o 0 = first.inner o.layout 0 ++ '\n' :: printAll o.layout 0 rest := by
          simp [fragment, hnodes, printAll, Node.print_eq]
      _ = '<' :: (cs ++ ds) ++ ['\n'] := by rw [hcs, hlines]; simp
  refine ⟨cs ++ ds, t :: ts, hprint, ?_, ?_, ?_⟩
  · rw [hcs] at hadds
    exact hadds.append haddsRest
  · rw [withoutLayoutIn, hlayout, htree, htrees, hnodes, treesOf]
    rfl
  · obtain ⟨more, hmore⟩ : ∃ more, cs = 'f' :: more := by
      rw [hfirst] at hcs
      exact ⟨_, (List.cons.inj hcs).2.symm⟩
    rw [hmore]
    rfl

/-- A page is its document type and three frames, the head and the body of the page in that of the page. -/
theorem page_eq (o : RenderOptions) (f : Form) :
    f.page o = doctype ++ '\n' :: frame o.layout [] "html" [.of "lang" "en"]
      (frame o.layout [] "head" [] (printAll ⟨o.layout.escaped, true⟩ 1 (f.headNodes o.styles)) ++
        frame o.layout [] "body" [] (printAll o.layout 1 (f.introNodes ++ f.nodes o.semantic))) := by
  have hdoctype : "<!DOCTYPE html>\n".toList = doctype ++ ['\n'] := rfl
  delta page fragment
  rw [hdoctype, printAll_append, List.append_assoc]
  rfl

/-- A page after its document type, as what is read before the line break at its end. -/
theorem exists_adds_page (ho : o.escape = true) (f : Form) :
    ∃ cs ts, f.page o = doctype ++ cs ++ ['\n'] ∧ Adds cs ts ∧
      withoutLayoutIn true ts = treesOf [.block "html" [.of "lang" "en"]
        [.block "head" [] (f.headNodes o.styles), .block "body" [] (f.introNodes ++ f.nodes o.semantic)]] := by
  have hbody : ∀ n ∈ f.introNodes ++ f.nodes o.semantic, n.Legible := by
    intro n hn
    rcases List.mem_append.1 hn with hn | hn
    · exact f.legible_introNodes n hn
    · exact f.legible_nodes _ n hn
  obtain ⟨head, headTrees, hhead, haddsHead, htreesHead⟩ :=
    exists_adds_printAll (l := ⟨o.layout.escaped, true⟩) ho (f.legible_headNodes o.styles) 1
  obtain ⟨body, bodyTrees, hbody, haddsBody, htreesBody⟩ := exists_adds_printAll (l := o.layout) ho hbody 1
  -- The frames from the inside out: the head and the body, each on its line, and around them the page.
  obtain ⟨cs, hcs, haddsHead⟩ := haddsHead.frame (l := o.layout) ho "head" (by decide) named_nil (by decide) (by decide) hhead
  obtain ⟨ds, hds, haddsBody⟩ := haddsBody.frame (l := o.layout) ho "body" (by decide) named_nil (by decide) (by decide) hbody
  have hadds := (haddsHead.line (l := o.layout) 0).append (haddsBody.line (l := o.layout) 0)
  have hlang : Named [.of "lang" "en"] := named_of_names ["lang"] rfl (by decide)
  obtain ⟨es, hes, haddsPage⟩ := hadds.frame (l := o.layout) ho "html" (by decide) hlang (by decide) (by decide)
    (show '\n' :: (Markup.frame o.layout [] "head" [] _ ++ Markup.frame o.layout [] "body" [] _) = _ by
      rw [hcs, hds]; simp [lineStart])
  refine ⟨lineStart o.layout 0 ++ '<' :: es, _, ?_, haddsPage.line (l := o.layout) 0, ?_⟩
  · rw [page_eq, hes]
    simp only [lineStart, indent_zero, List.cons_append, List.nil_append, List.append_assoc]
  · rw [withoutLayoutIn_lineTree, withoutLayoutIn_element, withoutLayout_element (by decide)]
    simp only [List.cons_append, List.nil_append, withoutLayoutIn_lineTree, withoutLayoutIn_element]
    rw [withoutLayout_element (by decide), withoutLayout_element (by decide), htreesHead, htreesBody]
    rfl

/-- What is read of escaped markup, and what is left of it without layout: the elements that were printed. -/
theorem exists_read?_render (ho : o.escape = true) (f : Form) :
    ∃ ts, read? (f.render o).toList = some ts ∧ withoutLayoutIn true ts = treesOf (f.elements o) := by
  have hend : ∀ ts : List Tree, withoutLayoutIn true (ts ++ [.text "\n"]) = withoutLayoutIn true ts := by
    intro ts
    rw [withoutLayoutIn_append]
    simp [withoutLayoutIn, Tree.isLayout]
  unfold render elements
  rw [String.toList_ofList]
  split
  · obtain ⟨cs, ts, hpage, hadds, htrees⟩ := exists_adds_page ho f
    exact ⟨_, hpage ▸ hadds.read?.2, (hend ts).trans htrees⟩
  · obtain ⟨cs, ts, hfragment, hadds, htrees, hdoctype⟩ := exists_adds_fragment ho f
    exact ⟨_, hfragment ▸ hadds.read?.1 hdoctype, (hend ts).trans htrees⟩

/-- Escaped markup is read in any case, and up to the line breaks and blanks between elements it is read as the tree that is
meant: every element is closed where it should be, and every text and every value comes back as the author gave it. -/
theorem read?_render (ho : o.escape = true) (f : Form) :
    ∃ ts, read? (f.render o).toList = some ts ∧ withoutLayoutIn true ts = f.trees o := by
  obtain ⟨ts, hread, htrees⟩ := exists_read?_render ho f
  exact ⟨ts, hread, htrees.trans (f.treesOf_elements o)⟩

/-- A page whose author tried to close elements and to open others wherever a text or a value stands. -/
theorem read?_render_tags_in_texts :
    let f : Form := {
      title := "</title><script>", description := "a < b & c",
      containers := [{ kind := .group, style := { flex := { direction := "\"><b" } }, fields := [
        { kind := .radio, name := "\"><input", label := "</label>&amp;", choices := [⟨"'", "<i>"⟩] }] }],
      customCss := some "<</style>", customJs := some "x = '</script>';" }
    let o : RenderOptions := { fullDocument := true, semantic := true }
    o.escape = true ∧ ∃ ts, read? (f.render o).toList = some ts ∧ withoutLayoutIn true ts = f.trees o :=
  ⟨rfl, read?_render rfl _⟩

end Form

end Webform
