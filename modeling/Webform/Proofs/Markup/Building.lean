import Webform.Proofs.Markup.Lexing

/-!
# Printed elements, read back

A printed element is read back as its tree, up to the line breaks and blanks between the elements in it (`Node.exists_adds`). It
has to be `Legible`: its names can be told from what stands around them, and each kind of element has a name that is read as
that kind.
-/

namespace Webform.Markup

/-! ## What a piece of markup adds -/

/-- In the middle of any markup, the text adds the trees to those read. -/
def Adds (cs : List Char) (trees : List Tree) : Prop :=
  ∃ ts, (∀ rest us, Lexes rest us → Lexes (cs ++ rest) (ts ++ us)) ∧
    ∀ b : Building, ts.foldlM Building.step? b = some { b with done := trees.reverse ++ b.done }

theorem Adds.nil : Adds [] [] := ⟨[], fun _ _ h => h, fun _ => rfl⟩

theorem Adds.append {cs ds : List Char} {trees more : List Tree} (h : Adds cs trees) (h' : Adds ds more) :
    Adds (cs ++ ds) (trees ++ more) := by
  obtain ⟨ts, hlex, hstep⟩ := h
  obtain ⟨us, hlex', hstep'⟩ := h'
  refine ⟨ts ++ us, fun rest vs hrest => ?_, fun b => ?_⟩
  · rw [List.append_assoc, List.append_assoc]
    exact hlex _ _ (hlex' _ _ hrest)
  · rw [List.foldlM_append, hstep]
    simp [hstep', Option.bind]

/-- The text of an element, if there is any, is one tree. -/
theorem foldlM_textTokens (cs : List Char) (b : Building) :
    (textTokens cs).foldlM Building.step? b = some { b with done := (textTree (.ofList cs)).reverse ++ b.done } := by
  cases cs with
  | nil => rfl
  | cons c cs => simp [textTokens, textTree, Building.step?]

/-- The start tag of an element, the trees in it and its end tag add the element. -/
theorem foldlM_element {name : String} (as : List Attribute) {ts : List Token} {trees : List Tree} (hname : isVoid name = false)
    (h : ∀ b : Building, ts.foldlM Building.step? b = some { b with done := trees.reverse ++ b.done }) (b : Building) :
    (.startTag name as :: (ts ++ [.endTag name])).foldlM Building.step? b =
      some { b with done := .element name as trees :: b.done } := by
  simp [Building.step?, hname, h, List.foldlM_append, Option.bind]

variable {l : Layout} {name : String} {as : List Attribute}

/-- An element that never holds anything. -/
theorem Adds.void (hl : l.escaped = true) (hname : IsName name) (has : Named as) (hvoid : isVoid name = true)
    (hraw : isRaw name = false) (slash : Bool) : Adds (printStart l name as ++ tagEnd slash) [.element name as []] :=
  ⟨[.startTag name as], fun _ _ hrest => Lexes.startTag hl hname has hraw slash hrest, fun b => by simp [Building.step?, hvoid]⟩

/-- An element that holds a text. -/
theorem Adds.text (hl : l.escaped = true) (hname : IsName name) (has : Named as) (hvoid : isVoid name = false)
    (hraw : isRaw name = false) (text : String) :
    Adds (printStart l name as ++ ['>'] ++ l.text text ++ printEnd name) [.element name as (textTree text)] := by
  refine ⟨.startTag name as :: (textTokens text.toList ++ [.endTag name]), fun rest us hrest => ?_, fun b => ?_⟩
  · have htext := Lexes.text (not_mem_escape text.toList '<' (by simp)) (Lexes.endTag hname hrest)
    have := Lexes.startTag hl hname has hraw false htext
    simpa [Layout.text, hl, tagEnd, printEnd, decode_escape] using this
  · have := foldlM_element as hvoid (foldlM_textTokens text.toList) b
    simpa using this

/-- A style sheet or a script. -/
theorem Adds.body (hl : l.escaped = true) (hname : IsName name) (has : Named as) (hvoid : isVoid name = false)
    (hraw : isRaw name = true) (text : String) :
    Adds (printStart l name as ++ ['>'] ++ l.body text ++ printEnd name)
      [.element name as (textTree (.ofList (escapeBody text.toList)))] := by
  refine ⟨.startTag name as :: (textTokens (escapeBody text.toList) ++ [.endTag name]), fun rest us hrest => ?_, fun b => ?_⟩
  · have := Lexes.body hl hname has hraw text.toList (Lexes.endTag hname hrest)
    simpa [Layout.body, hl, printEnd] using this
  · exact foldlM_element as hvoid (foldlM_textTokens _) b

/-! ## Line breaks and blanks -/

/-- The line break before an element or an end tag, with the blanks that indent it. -/
def lineStart (l : Layout) (depth : Nat) : List Char := '\n' :: l.indent depth

@[simp] theorem indent_zero (l : Layout) : l.indent 0 = [] := by
  unfold Layout.indent
  split <;> rfl

/-- There is nothing else before an element. -/
theorem lineStart_all (l : Layout) (depth : Nat) : ∀ c ∈ lineStart l depth, c = ' ' ∨ c = '\n' := by
  intro c hc
  rcases List.mem_cons.1 hc with rfl | hc
  · exact Or.inr rfl
  · unfold Layout.indent at hc
    split at hc
    · exact Or.inl (List.eq_of_mem_replicate hc)
    · simp at hc

theorem bracket_not_mem_lineStart (l : Layout) (depth : Nat) : '<' ∉ lineStart l depth := by
  intro hmem
  rcases lineStart_all l depth _ hmem with h | h <;> exact absurd h (by decide)

theorem decode_lineStart (l : Layout) (depth : Nat) : decode (lineStart l depth) = lineStart l depth := by
  have h := lineStart_all l depth
  revert h
  generalize lineStart l depth = cs
  intro h
  induction cs with
  | nil => rfl
  | cons c cs ih =>
    have hc : c ≠ '&' := by rcases h c (by simp) with rfl | rfl <;> decide
    rw [decode.eq_def]
    split <;> simp_all

/-- The layout before an element, as a tree. -/
def lineTree (l : Layout) (depth : Nat) : Tree := .text (.ofList (lineStart l depth))

/-- A piece of markup that starts with a tag, on a line of its own. -/
theorem Adds.line {cs : List Char} {trees : List Tree} (h : Adds ('<' :: cs) trees) (depth : Nat) :
    Adds (lineStart l depth ++ '<' :: cs) (lineTree l depth :: trees) := by
  obtain ⟨ts, hlex, hstep⟩ := h
  refine ⟨textTokens (lineStart l depth) ++ ts, fun rest us hrest => ?_, fun b => ?_⟩
  · have := Lexes.text (bracket_not_mem_lineStart l depth) (hlex _ _ hrest)
    simpa [decode_lineStart] using this
  · rw [List.foldlM_append, foldlM_textTokens]
    simp [hstep, textTree, lineTree, lineStart, Option.bind]

/-- An element that holds elements, each on a line of its own, with its end tag on a line of its own. -/
theorem Adds.element {cs : List Char} {trees : List Tree} (hl : l.escaped = true) (hname : IsName name)
    (has : Named as) (hvoid : isVoid name = false) (hraw : isRaw name = false) (h : Adds cs trees) (depth : Nat) :
    Adds (printStart l name as ++ ['>'] ++ cs ++ lineStart l depth ++ printEnd name)
      [.element name as (trees ++ [lineTree l depth])] := by
  obtain ⟨ts, hlex, hstep⟩ := h
  refine ⟨.startTag name as :: (ts ++ textTokens (lineStart l depth) ++ [.endTag name]), fun rest us hrest => ?_, fun b => ?_⟩
  · have hend := Lexes.text (bracket_not_mem_lineStart l depth) (Lexes.endTag hname hrest)
    have := Lexes.startTag hl hname has hraw false (hlex _ _ hend)
    simpa [decode_lineStart, tagEnd, printEnd] using this
  · refine foldlM_element as hvoid (fun b => ?_) b
    rw [List.foldlM_append, hstep]
    simp [foldlM_textTokens, textTree, lineTree, lineStart, Option.bind]

/-! ## Trees without layout -/

/-- The layout before an element is dropped where only elements should stand. -/
theorem withoutLayoutIn_lineTree (l : Layout) (depth : Nat) (ts : List Tree) :
    withoutLayoutIn true (lineTree l depth :: ts) = withoutLayoutIn true ts := by
  have h : (lineTree l depth).isLayout = true := by
    simp only [lineTree, Tree.isLayout, String.toList_ofList, List.all_eq_true, Bool.or_eq_true, beq_iff_eq]
    exact lineStart_all l depth
  rw [withoutLayoutIn, h]
  rfl

theorem withoutLayoutIn_element (elementsOnly : Bool) (name : String) (as : List Attribute) (children ts : List Tree) :
    withoutLayoutIn elementsOnly (.element name as children :: ts) =
      (Tree.element name as children).withoutLayout :: withoutLayoutIn elementsOnly ts := by
  simp [withoutLayoutIn, Tree.isLayout]

theorem withoutLayoutIn_append (elementsOnly : Bool) (ts us : List Tree) :
    withoutLayoutIn elementsOnly (ts ++ us) = withoutLayoutIn elementsOnly ts ++ withoutLayoutIn elementsOnly us := by
  induction ts with
  | nil => simp [withoutLayoutIn]
  | cons t ts ih =>
    simp only [List.cons_append, withoutLayoutIn, ih]
    split <;> rfl

/-- In an element that holds elements only, the layout before its end tag is dropped. -/
theorem withoutLayout_element {name : String} (h : holdsElements name = true) (as : List Attribute) (ts : List Tree) (l : Layout)
    (depth : Nat) :
    (Tree.element name as (ts ++ [lineTree l depth])).withoutLayout = .element name as (withoutLayoutIn true ts) := by
  rw [Tree.withoutLayout, h, withoutLayoutIn_append, withoutLayoutIn_lineTree, withoutLayoutIn, List.append_nil]

/-- Where texts may stand, nothing is dropped from a text. -/
theorem withoutLayoutIn_textTree (text : String) : withoutLayoutIn false (textTree text) = textTree text := by
  unfold textTree
  split <;> simp [withoutLayoutIn, Tree.withoutLayout]

/-! ## Elements -/

namespace Node

/-- An element whose names can be told from what stands around them, and whose name is read as what it is: an element that never
holds anything, one that holds a text, a style sheet or script, or one that holds elements only. -/
inductive Legible : Node → Prop
  | void (name : String) (as : List Attribute) (slash : Bool) : IsName name → Named as → isVoid name = true →
      isRaw name = false → Legible (.void name as slash)
  | text (name : String) (as : List Attribute) (text : String) : IsName name → Named as → isVoid name = false →
      isRaw name = false → holdsElements name = false → Legible (.text name as text)
  | body (name text : String) : IsName name → isVoid name = false → isRaw name = true → holdsElements name = false →
      Legible (.body name text)
  | block (name : String) (as : List Attribute) (children : List Node) : IsName name → Named as →
      isVoid name = false → isRaw name = false → holdsElements name = true → (∀ n ∈ children, Legible n) →
      Legible (.block name as children)

/-- The text of an element without the layout around it. -/
def inner (l : Layout) (depth : Nat) : Node → List Char
  | .void name as slash => printStart l name as ++ tagEnd slash
  | .text name as content => printStart l name as ++ ['>'] ++ l.text content ++ printEnd name
  | .body name content => printStart l name [] ++ ['>'] ++ l.body content ++ printEnd name
  | .block name as children =>
    printStart l name as ++ ['>', '\n'] ++ printAll l (depth + 1) children ++ l.indent depth ++ printEnd name

theorem print_eq (l : Layout) (depth : Nat) (n : Node) : n.print l depth = l.indent depth ++ n.inner l depth ++ ['\n'] := by
  cases n with
  | void name as slash => cases slash <;> simp [print, inner, tagEnd]
  | text => simp [print, inner]
  | body => simp [print, inner]
  | block => simp [print, inner, frame]

/-- An element starts with its tag. -/
theorem exists_inner_eq (l : Layout) (depth : Nat) (n : Node) : ∃ cs, n.inner l depth = '<' :: cs := by
  cases n <;> simp [inner, printStart]

end Node

/-- Elements one after another, each on its line: a line break before the first of them, and one after the last. -/
theorem lineBreak_printAll (l : Layout) (depth : Nat) (ns : List Node) :
    '\n' :: printAll l depth ns = (ns.flatMap fun n => lineStart l depth ++ n.inner l depth) ++ ['\n'] := by
  induction ns with
  | nil => rfl
  | cons n ns ih =>
    have hprint : '\n' :: printAll l depth (n :: ns) = lineStart l depth ++ n.inner l depth ++ '\n' :: printAll l depth ns := by
      simp [printAll, Node.print_eq, lineStart]
    rw [hprint, ih, List.flatMap_cons]
    simp

/-- An element in the text adds its tree, with layout in it that may be dropped. -/
def Node.Readable (l : Layout) (n : Node) : Prop :=
  ∀ depth, ∃ t, Adds (n.inner l depth) [t] ∧ t.withoutLayout = n.tree ∧ t.isLayout = false

/-- Elements on lines of their own add their trees. -/
theorem exists_adds_lines {ns : List Node} (h : ∀ n ∈ ns, n.Readable l) (depth : Nat) :
    ∃ ts, Adds (ns.flatMap fun n => lineStart l depth ++ n.inner l depth) ts ∧ withoutLayoutIn true ts = treesOf ns := by
  induction ns with
  | nil => exact ⟨[], Adds.nil, rfl⟩
  | cons n ns ih =>
    obtain ⟨t, hadds, htree, hlayout⟩ := h n (by simp) depth
    obtain ⟨ts, haddsAll, htrees⟩ := ih fun m hm => h m (by simp [hm])
    obtain ⟨cs, hcs⟩ := n.exists_inner_eq l depth
    rw [hcs] at hadds
    refine ⟨lineTree l depth :: t :: ts, ?_, ?_⟩
    · rw [List.flatMap_cons, hcs]
      exact (hadds.line depth).append haddsAll
    · rw [withoutLayoutIn_lineTree, withoutLayoutIn, hlayout, htree, htrees, treesOf]
      rfl

/-- Every legible element is read back as its tree. -/
theorem Node.Legible.readable (hl : l.escaped = true) {n : Node} (h : n.Legible) : n.Readable l := by
  induction h with
  | void name as slash hname has hvoid hraw =>
    intro depth
    refine ⟨_, Adds.void hl hname has hvoid hraw slash, ?_, rfl⟩
    simp [Tree.withoutLayout, withoutLayoutIn, Node.tree]
  | text name as text hname has hvoid hraw hholds =>
    intro depth
    refine ⟨_, Adds.text hl hname has hvoid hraw text, ?_, rfl⟩
    rw [Tree.withoutLayout, hholds, withoutLayoutIn_textTree, Node.tree]
  | body name text hname hvoid hraw hholds =>
    intro depth
    refine ⟨_, Adds.body hl hname named_nil hvoid hraw text, ?_, rfl⟩
    rw [Tree.withoutLayout, hholds, withoutLayoutIn_textTree, Node.tree]
  | block name as children hname has hvoid hraw hholds _ ih =>
    intro depth
    obtain ⟨ts, hadds, htrees⟩ := exists_adds_lines ih (depth + 1)
    have hinner : (Node.block name as children).inner l depth = printStart l name as ++ ['>'] ++
        (children.flatMap fun n => lineStart l (depth + 1) ++ n.inner l (depth + 1)) ++ lineStart l depth ++ printEnd name := by
      have hlines := lineBreak_printAll l (depth + 1) children
      simp only [Node.inner, lineStart] at hlines ⊢
      calc
        _ = printStart l name as ++ ['>'] ++ ('\n' :: printAll l (depth + 1) children) ++ l.indent depth ++ printEnd name := by
          simp
        _ = _ := by rw [hlines]; simp
    refine ⟨_, hinner ▸ Adds.element hl hname has hvoid hraw hadds depth, ?_, rfl⟩
    rw [withoutLayout_element hholds, htrees, Node.tree]

end Webform.Markup
