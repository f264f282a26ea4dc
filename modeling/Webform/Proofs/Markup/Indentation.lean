import Webform.Markup.Page
import Webform.Proofs.Markup.Building

/-!
# Markup without its indentation

Every element is printed on lines of its own, so the blanks at the start of a line are layout or stand in the author's own text after
a line break, and in either case they are the only thing that the depth and the option to indent decide on. Without them
(`unindent`) a form comes out the same whatever is asked for the layout, alone or on a page (`Form.unindent_render`).
-/

namespace Webform

namespace Markup

/-! ## Lines -/

/-- A text without the blanks at the start of its lines. -/
def unindent (cs : List Char) : List Char := ['\n'].intercalate ((cs.splitOn '\n').map (List.dropWhile (· == ' ')))

@[simp] theorem unindent_nil : unindent [] = [] := rfl

theorem intercalate_append {α : Type} (sep : List α) {xs ys : List (List α)} (hx : xs ≠ []) (hy : ys ≠ []) :
    sep.intercalate (xs ++ ys) = sep.intercalate xs ++ sep ++ sep.intercalate ys := by
  induction xs with
  | nil => exact absurd rfl hx
  | cons x xs ih =>
    cases xs with
    | nil => simp [List.intercalate_cons_of_ne_nil hy]
    | cons x' xs =>
      rw [List.cons_append, List.intercalate_cons_of_ne_nil (by simp), ih (by simp), List.intercalate_cons_cons]
      simp

/-- The lines before a line break and those after it have nothing to do with each other. -/
theorem unindent_lineBreak (cs ds : List Char) : unindent (cs ++ '\n' :: ds) = unindent cs ++ '\n' :: unindent ds := by
  unfold unindent
  rw [List.splitOn_append_cons_self, List.map_append, intercalate_append]
  · simp
  · simp
  · simp

/-- A blank at the start of a line is dropped. -/
theorem unindent_blank (cs : List Char) : unindent (' ' :: cs) = unindent cs := by
  unfold unindent
  obtain ⟨line, lines, hlines⟩ := List.exists_cons_of_ne_nil (List.splitOn_ne_nil '\n' cs)
  rw [List.splitOn_cons_eq_if_modifyHead, hlines]
  rfl

theorem unindent_indent (l : Layout) (depth : Nat) (cs : List Char) : unindent (l.indent depth ++ cs) = unindent cs := by
  have hblanks : ∀ n, unindent (List.replicate n ' ' ++ cs) = unindent cs := by
    intro n
    induction n with
    | zero => rfl
    | succ n ih => rw [List.replicate_succ, List.cons_append, unindent_blank, ih]
  unfold Layout.indent
  split
  · exact hblanks _
  · rfl

/-- A text that ends with a line, if it is not empty. -/
def WholeLines (cs : List Char) : Prop := cs = [] ∨ ∃ ds, cs = ds ++ ['\n']

theorem WholeLines.snoc (cs : List Char) : WholeLines (cs ++ ['\n']) := Or.inr ⟨cs, rfl⟩

theorem WholeLines.append {cs ds : List Char} (hc : WholeLines cs) (hd : WholeLines ds) : WholeLines (cs ++ ds) := by
  rcases hd with rfl | ⟨es, rfl⟩
  · rwa [List.append_nil]
  · rw [← List.append_assoc]
    exact .snoc _

/-- What follows whole lines starts a line. -/
theorem WholeLines.unindent_append {cs : List Char} (h : WholeLines cs) (ds : List Char) :
    unindent (cs ++ ds) = unindent cs ++ unindent ds := by
  rcases h with rfl | ⟨es, rfl⟩
  · rfl
  · rw [List.append_assoc, List.singleton_append, unindent_lineBreak, unindent_lineBreak]
    simp

/-! ## Elements -/

theorem wholeLines_print (l : Layout) (depth : Nat) (n : Node) : WholeLines (n.print l depth) := by
  rw [n.print_eq]
  exact .snoc _

theorem wholeLines_printAll (l : Layout) (depth : Nat) (ns : List Node) : WholeLines (printAll l depth ns) := by
  induction ns with
  | nil => exact Or.inl rfl
  | cons n ns ih =>
    exact (wholeLines_print l depth n).append ih

theorem unindent_print (l : Layout) (depth : Nat) (n : Node) : unindent (n.print l depth) = unindent (n.inner l depth) ++ ['\n'] := by
  rw [n.print_eq, List.append_assoc, unindent_indent, unindent_lineBreak, unindent_nil]

mutual

/-- An element has the same text at any depth, indented or not. -/
theorem Node.unindent_inner (escaped indented indented' : Bool) : ∀ (n : Node) (depth depth' : Nat),
    unindent (n.inner ⟨escaped, indented⟩ depth) = unindent (n.inner ⟨escaped, indented'⟩ depth')
  | .void .., _, _ => rfl
  | .text .., _, _ => rfl
  | .body .., _, _ => rfl
  | .block name as children, depth, depth' => by
    have hinner (l : Layout) (depth : Nat) : unindent ((Node.block name as children).inner l depth) =
        unindent (printStart l name as ++ ['>']) ++
          '\n' :: (unindent (printAll l (depth + 1) children) ++ unindent (printEnd name)) := by
      rw [← unindent_indent l depth (printEnd name), ← (wholeLines_printAll l (depth + 1) children).unindent_append,
        ← unindent_lineBreak]
      simp [Node.inner]
    rw [hinner, hinner, unindent_printAll escaped indented indented' children (depth + 1) (depth' + 1)]
    rfl

/-- Elements one after another have the same text at any depth, indented or not. -/
theorem unindent_printAll (escaped indented indented' : Bool) : ∀ (ns : List Node) (depth depth' : Nat),
    unindent (printAll ⟨escaped, indented⟩ depth ns) = unindent (printAll ⟨escaped, indented'⟩ depth' ns)
  | [], _, _ => rfl
  | n :: ns, depth, depth' => by
    have hcons (l : Layout) (depth : Nat) : unindent (printAll l depth (n :: ns)) =
        unindent (n.inner l depth) ++ ['\n'] ++ unindent (printAll l depth ns) := by
      rw [printAll, (wholeLines_print l depth n).unindent_append, unindent_print]
    rw [hcons, hcons, n.unindent_inner escaped indented indented' depth depth',
      unindent_printAll escaped indented indented' ns depth depth']

end

mutual

/-- Without indentation an element is printed the same at any depth. -/
theorem Node.print_depth (escaped : Bool) : ∀ (n : Node) (depth depth' : Nat),
    n.print ⟨escaped, false⟩ depth = n.print ⟨escaped, false⟩ depth'
  | .void .., _, _ => rfl
  | .text .., _, _ => rfl
  | .body .., _, _ => rfl
  | .block name as children, depth, depth' => by
    rw [Node.print, Node.print, printAll_depth escaped children (depth + 1) (depth' + 1)]
    rfl

theorem printAll_depth (escaped : Bool) : ∀ (ns : List Node) (depth depth' : Nat),
    printAll ⟨escaped, false⟩ depth ns = printAll ⟨escaped, false⟩ depth' ns
  | [], _, _ => rfl
  | n :: ns, depth, depth' => by
    rw [printAll, printAll, n.print_depth escaped depth depth', printAll_depth escaped ns depth depth']

end

end Markup

open Markup

/-! ## Pages -/

namespace Form

/-- The start of a page, up to what its head holds. -/
def headOpening : List Char := "<!DOCTYPE html>\n<html lang=\"en\">\n<head>\n".toList

/-- The end of a page's head and the start of its body. -/
def bodyOpening : List Char := "</head>\n<body>\n".toList

/-- What stands after the form on a page. -/
def bodyClosing : List Char := "</body>\n</html>\n".toList

/-- What stands before the body of a page; it is always indented. -/
def pageHead (escaped styles : Bool) (title : String) : List Char :=
  headOpening ++ printAll ⟨escaped, true⟩ 1 (headNodes styles { title := title }) ++ bodyOpening

/-- What stands before the form on a page: the head, and the title and description above the form. -/
def pageStart (escaped indented styles : Bool) (title description : String) : List Char :=
  pageHead escaped styles title ++
    printAll ⟨escaped, indented⟩ 1 (introNodes { title := title, description := description })

/-- What stands before the form on a page, without the blanks at the start of its lines. -/
def pageOpening (escaped styles : Bool) (title description : String) : List Char :=
  unindent (pageStart escaped false styles title description)

/-- A page is the form between what stands before it and after it. -/
theorem page_eq_around (o : RenderOptions) (f : Form) :
    f.page o = pageStart o.escape o.indent o.styles f.title f.description ++ f.fragment o 1 ++ bodyClosing := by
  have hen : o.layout.text "en" = ['e', 'n'] := by
    unfold Layout.text
    split <;> rfl
  have hhead : headOpening = "<!DOCTYPE html>\n".toList ++ (printStart o.layout "html" [.of "lang" "en"] ++ ['>', '\n']) ++
      (printStart o.layout "head" [] ++ ['>', '\n']) := by
    unfold headOpening
    simp [printStart, Attribute.print, Attribute.of, hen]
  have hbody : bodyOpening = printEnd "head" ++ ['\n'] ++ (printStart o.layout "body" [] ++ ['>', '\n']) := by
    unfold bodyOpening
    simp [printStart, printEnd]
  have hclosing : bodyClosing = printEnd "body" ++ ['\n'] ++ (printEnd "html" ++ ['\n']) := by
    unfold bodyClosing
    simp [printEnd]
  have hheadNodes : headNodes o.styles { title := f.title } = f.headNodes o.styles := rfl
  have hintroNodes : introNodes { title := f.title, description := f.description } = f.introNodes := rfl
  have hlayout : (⟨o.escape, o.indent⟩ : Layout) = o.layout := rfl
  have hindented : (⟨o.escape, true⟩ : Layout) = ⟨o.layout.escaped, true⟩ := rfl
  delta page pageStart pageHead
  dsimp only
  rw [hheadNodes, hintroNodes, hlayout, hindented, hhead, hbody, hclosing, frame, frame, frame]
  simp only [List.nil_append, List.append_assoc]

theorem wholeLines_pageHead (escaped styles : Bool) (title : String) : WholeLines (pageHead escaped styles title) := by
  have hhead : WholeLines headOpening := Or.inr ⟨"<!DOCTYPE html>\n<html lang=\"en\">\n<head>".toList, by unfold headOpening; simp⟩
  have hbody : WholeLines bodyOpening := Or.inr ⟨"</head>\n<body>".toList, by unfold bodyOpening; simp⟩
  exact (hhead.append (wholeLines_printAll ..)).append hbody

theorem wholeLines_pageStart (escaped indented styles : Bool) (title description : String) :
    WholeLines (pageStart escaped indented styles title description) :=
  (wholeLines_pageHead ..).append (wholeLines_printAll ..)

/-- Of what stands before the form only the title and the description above it are indented or not. -/
theorem unindent_pageStart (escaped indented styles : Bool) (title description : String) :
    unindent (pageStart escaped indented styles title description) = pageOpening escaped styles title description := by
  unfold pageOpening pageStart
  rw [(wholeLines_pageHead ..).unindent_append, (wholeLines_pageHead ..).unindent_append,
    unindent_printAll escaped indented false _ 1 1]

theorem wholeLines_fragment (o : RenderOptions) (depth : Nat) (f : Form) : WholeLines (f.fragment o depth) :=
  wholeLines_printAll ..

/-- The markup of a form alone is the same at any depth, indented or not. -/
theorem unindent_fragment {o o' : RenderOptions} (hescape : o.escape = o'.escape) (hsemantic : o.semantic = o'.semantic)
    (depth depth' : Nat) (f : Form) : unindent (f.fragment o depth) = unindent (f.fragment o' depth') := by
  unfold fragment RenderOptions.layout
  rw [hescape, hsemantic]
  exact unindent_printAll ..

/-- The layout of a form's markup is all that the options for it change. Whatever is asked for the indentation and the default style
sheet, the markup of the form alone is the same but for blanks at the start of lines. So is a page, after an opening that depends on
nothing but the title, the description, the style sheet and whether texts are escaped; and a page that is not indented has the markup of
the form in it as it is. -/
theorem unindent_render {o o' : RenderOptions} (hescape : o.escape = o'.escape) (hsemantic : o.semantic = o'.semantic) (f : Form) :
    unindent (f.render { o with fullDocument := false }).toList = unindent (f.render { o' with fullDocument := false }).toList ∧
      unindent (f.render { o with fullDocument := true }).toList = pageOpening o.escape o.styles f.title f.description ++
        unindent (f.render { o' with fullDocument := false }).toList ++ bodyClosing ∧
      (o.indent = false → (f.render { o with fullDocument := true }).toList =
        pageStart o.escape false o.styles f.title f.description ++ (f.render { o with fullDocument := false }).toList ++
          bodyClosing) := by
  have hpage (o : RenderOptions) : (f.render { o with fullDocument := true }).toList =
      pageStart o.escape o.indent o.styles f.title f.description ++ f.fragment o 1 ++ bodyClosing := by
    rw [render, if_pos rfl, String.toList_ofList]
    exact page_eq_around _ f
  have halone (o : RenderOptions) : (f.render { o with fullDocument := false }).toList = f.fragment o 0 := by
    rw [render, if_neg Bool.false_ne_true, String.toList_ofList]
    rfl
  have hclosing : unindent bodyClosing = bodyClosing := by decide +kernel
  rw [hpage, halone, halone]
  refine ⟨unindent_fragment hescape hsemantic 0 0 f, ?_, ?_⟩
  · rw [List.append_assoc, (wholeLines_pageStart ..).unindent_append, (f.wholeLines_fragment o 1).unindent_append, hclosing,
      unindent_pageStart, unindent_fragment hescape hsemantic 1 0 f, List.append_assoc]
  · intro hindent
    have hdepth : f.fragment o 1 = f.fragment o 0 := by
      unfold fragment RenderOptions.layout
      rw [hindent]
      exact printAll_depth ..
    rw [hdepth, hindent]

/-- A form with blanks after line breaks in its title and in a label, once with each way of indenting it. -/
theorem unindent_render_spread_label :
    let f : Form := { title := "a\n  b", containers := [{ fields := [{ name := "n", label := "x\n     y" }] }] }
    let o : RenderOptions := { indent := false, styles := false }
    let o' : RenderOptions := {}
    (o.escape = o'.escape ∧ o.semantic = o'.semantic ∧ o.indent = false ∧ f.render o ≠ f.render o') ∧
      unindent (f.render o).toList = unindent (f.render o').toList ∧
      unindent (f.render { o with fullDocument := true }).toList =
        pageOpening true false "a\n  b" "" ++ unindent (f.render o').toList ++ bodyClosing ∧
      (f.render { o with fullDocument := true }).toList =
        pageStart true false false "a\n  b" "" ++ (f.render o).toList ++ bodyClosing := by
  intro f o o'
  have hne : f.render o ≠ f.render o' := by
    intro h
    have hfragment : f.fragment o 0 ≠ f.fragment o' 0 := by decide +kernel
    exact hfragment (String.ofList_injective h)
  have hescape : o.escape = o'.escape := rfl
  have hsemantic : o.semantic = o'.semantic := rfl
  obtain ⟨hfragment, hpage, hunindented⟩ := unindent_render hescape hsemantic f
  exact ⟨⟨hescape, hsemantic, rfl, hne⟩, hfragment, hpage, hunindented rfl⟩

end Form

end Webform
