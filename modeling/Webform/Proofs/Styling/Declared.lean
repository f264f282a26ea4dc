import Webform.Proofs.Markup.EscapedTexts
import Webform.Proofs.Styling.Silence

/-!
# What styles declare

The settings of a style in force stand in a fixed order. Each that says something is declared once, in that order, and the author's own
declarations come last (`Declares`). The settings of a layout that is not in force are not among them, and the classes of a field are
found again in its class attribute because they are words.
-/

namespace Webform

/-! ## Words and blanks -/

namespace Text

/-- A word: some characters, none of them blank. -/
structure IsWord (w : String) : Prop where
  ne_empty : w ≠ ""
  dense : ∀ c ∈ w.toList, isBlankChar c = false

theorem isWord_reverse {word : List Char} (hne : ¬word.isEmpty = true) (h : ∀ c ∈ word, isBlankChar c = false) :
    IsWord (.ofList word.reverse) where
  ne_empty := by simpa [String.ofList_eq_empty_iff] using hne
  dense := by simpa using h

theorem isWord_of_mem_wordsFrom {word cs : List Char} {w : String} (h : ∀ c ∈ word, isBlankChar c = false)
    (hw : w ∈ wordsFrom word cs) : IsWord w := by
  fun_induction wordsFrom word cs with
  | case1 => simp at hw
  | case2 word hne =>
    rw [List.mem_singleton.1 hw]
    exact isWord_reverse hne h
  | case3 word c cs hc hempty ih => exact ih (by simp) hw
  | case4 word c cs hc hne ih =>
    rcases List.mem_cons.1 hw with rfl | hw
    · exact isWord_reverse hne h
    · exact ih (by simp) hw
  | case5 word c cs hc ih =>
    refine ih (fun d hd => ?_) hw
    rcases List.mem_cons.1 hd with rfl | hd
    · simpa using hc
    · exact h d hd

theorem isWord_of_mem_words {s w : String} (hw : w ∈ words s) : IsWord w := isWord_of_mem_wordsFrom (by simp) hw

theorem IsWord.wordsFrom_append {w : String} (h : IsWord w) (cs : List Char) :
    wordsFrom [] (w.toList ++ cs) = wordsFrom w.toList.reverse cs := by
  rw [Markup.wordsFrom_append h.dense, List.append_nil]

/-- Words that are joined by blanks are found again. -/
theorem words_intercalate {ws : List String} (h : ∀ w ∈ ws, IsWord w) : words (" ".intercalate ws) = ws := by
  induction ws with
  | nil => rfl
  | cons w ws ih =>
    have hw := h w List.mem_cons_self
    have hne : w.toList.reverse.isEmpty = false := by simpa using hw.ne_empty
    have hword : String.ofList w.toList.reverse.reverse = w := by simp
    cases ws with
    | nil =>
      have hself := hw.wordsFrom_append []
      rw [List.append_nil] at hself
      rw [String.intercalate_singleton, words, hself, wordsFrom, hne, hword]
      rfl
    | cons v ws =>
      have hrest := ih fun u hu => h u (List.mem_cons_of_mem w hu)
      rw [words] at hrest
      have hblank : isBlankChar ' ' = true := by decide
      have hlist : (w ++ " " ++ " ".intercalate (v :: ws)).toList = w.toList ++ ' ' :: (" ".intercalate (v :: ws)).toList := by simp
      rw [String.intercalate_cons_cons, words, hlist, hw.wordsFrom_append, wordsFrom, hblank, hne, hword, hrest]
      rfl

/-- The text `t` is what is left of `s` without the blanks at either end. -/
structure Trims (s t : String) : Prop where
  around : ∃ a b, s.toList = a ++ t.toList ++ b ∧ (∀ c ∈ a, isBlankChar c = true) ∧ ∀ c ∈ b, isBlankChar c = true
  head : ∀ c ∈ t.toList.head?, isBlankChar c = false
  last : ∀ c ∈ t.toList.getLast?, isBlankChar c = false

theorem exists_eq_append_trimStart (cs : List Char) : ∃ a, cs = a ++ trimStart cs ∧ ∀ c ∈ a, isBlankChar c = true :=
  ⟨cs.takeWhile isBlankChar, List.takeWhile_append_dropWhile.symm, fun _ => List.mem_takeWhile_imp⟩

theorem exists_eq_trimEnd_append (cs : List Char) : ∃ b, cs = trimEnd cs ++ b ∧ ∀ c ∈ b, isBlankChar c = true := by
  obtain ⟨b, hb, hblank⟩ := exists_eq_append_trimStart cs.reverse
  refine ⟨b.reverse, ?_, fun c hc => hblank c (List.mem_reverse.1 hc)⟩
  rw [trimEnd, ← List.reverse_append, ← hb, List.reverse_reverse]

theorem isBlankChar_head_trimStart {cs : List Char} {c : Char} (h : c ∈ (trimStart cs).head?) : isBlankChar c = false := by
  have hnot := List.head?_dropWhile_not isBlankChar cs
  rw [← trimStart, Option.mem_def.1 h] at hnot
  exact hnot

theorem trims_trim (s : String) : Trims s (trim s) := by
  obtain ⟨a, ha, hstart⟩ := exists_eq_append_trimStart s.toList
  obtain ⟨b, hb, hend⟩ := exists_eq_trimEnd_append (trimStart s.toList)
  have htext : (trim s).toList = trimEnd (trimStart s.toList) := String.toList_ofList
  constructor
  case around => exact ⟨a, b, by rw [htext, List.append_assoc, ← hb, ← ha], hstart, hend⟩
  case head =>
    intro c hc
    rw [htext] at hc
    have hhead : c ∈ (trimStart s.toList).head? := by
      rw [hb]
      exact List.mem_head?_append_of_mem_head? hc
    exact isBlankChar_head_trimStart hhead
  case last =>
    intro c hc
    rw [htext, trimEnd, List.getLast?_reverse] at hc
    exact isBlankChar_head_trimStart hc

end Text

/-! ## What settings say -/

/-- A property with what it is set to, if it is. -/
abbrev Setting := String × Option String

/-- The property with its value, if the setting says something. -/
def saidBy (x : Setting) : Option (String × String) := (x.2.filter (· ≠ "")).map (x.1, ·)

theorem saidBy_eq_some_iff (x : Setting) (d : String × String) : saidBy x = some d ↔ x = (d.1, some d.2) ∧ d.2 ≠ "" := by
  simp only [saidBy, Option.map_eq_some_iff, Option.filter_eq_some_iff, decide_eq_true_eq]
  constructor
  · rintro ⟨v, ⟨hx, hv⟩, rfl⟩
    exact ⟨Prod.ext rfl hx, hv⟩
  · rintro ⟨rfl, hv⟩
    exact ⟨d.2, ⟨rfl, hv⟩, rfl⟩

/-- A setting is declared as what it says. -/
theorem declareOptional_eq (x : Setting) : declareOptional x.1 x.2 = (saidBy x).toList.map fun d => .set d.1 d.2 := by
  obtain ⟨p, _ | v⟩ := x
  · rfl
  · by_cases hv : v = "" <;> simp [declareOptional, declare, saidBy, Option.filter_some, hv]

/-- How settings, in the order that is fixed for them, and a text of the author's stand in a list of declarations: each setting that says
something is declared once and in its place (`sets`), and what is left of the text without the blanks at its ends comes last (`own`). -/
structure Declares (settings : List Setting) (css : Option String) (declarations : List Declaration)
    (sets : List (String × String)) (own : List String) : Prop where
  eq_append : declarations = sets.map (fun d => .set d.1 d.2) ++ own.map .free
  texts : declarations.map Declaration.text = sets.map (fun d => d.1 ++ ": " ++ d.2 ++ ";") ++ own
  inOrder : (sets.map Prod.fst).Sublist (settings.map Prod.fst)
  once : (sets.map Prod.fst).Nodup
  mem_iff : ∀ property value, (property, value) ∈ sets ↔ (property, some value) ∈ settings ∧ value ≠ ""
  own_of_blank : (∀ t, css = some t → Text.isBlank t = true) → own = []
  own_of_text : ∀ t, css = some t → Text.isBlank t = false → ∃ u, own = [u] ∧ Text.Trims t u

theorem sublist_saidBy (settings : List Setting) : ((settings.filterMap saidBy).map Prod.fst).Sublist (settings.map Prod.fst) := by
  induction settings with
  | nil => exact List.Sublist.slnil
  | cons x settings ih =>
    cases hx : saidBy x with
    | none =>
      rw [List.filterMap_cons_none hx]
      exact ih.cons _
    | some d =>
      obtain ⟨rfl, -⟩ := (saidBy_eq_some_iff x d).1 hx
      rw [List.filterMap_cons_some hx]
      exact ih.cons_cons _

/-- The author's own declarations, as a list of one text or none. -/
def ownTexts (css : Option String) : List String :=
  if Text.isBlank (css.getD "") then [] else [Text.trim (css.getD "")]

theorem declareFree_eq (css : Option String) : declareFree css = (ownTexts css).map .free := by
  have hempty : (Text.trim (css.getD "")).isEmpty = true ↔ Text.isBlank (css.getD "") = true := by
    rw [String.isEmpty_iff, Text.trim_eq_empty_iff]
  unfold declareFree ownTexts
  simp only [hempty]
  split <;> rfl

/-- Settings of different properties, declared one after another, with the author's own text after them. -/
theorem declares_flatMap {settings : List Setting} (h : (settings.map Prod.fst).Nodup) (css : Option String) :
    Declares settings css ((settings.flatMap fun x => declareOptional x.1 x.2) ++ declareFree css) (settings.filterMap saidBy)
      (ownTexts css) := by
  have hsets : (settings.flatMap fun x => declareOptional x.1 x.2) = (settings.filterMap saidBy).map fun d => .set d.1 d.2 := by
    simp only [declareOptional_eq]
    rw [← List.map_flatMap, List.filterMap_eq_flatMap_toList]
  constructor
  case eq_append => rw [hsets, declareFree_eq]
  case texts =>
    rw [hsets, declareFree_eq, List.map_append, List.map_map, List.map_map]
    congr 1
    exact List.map_id _
  case inOrder => exact sublist_saidBy settings
  case once => exact h.sublist (sublist_saidBy settings)
  case mem_iff =>
    intro property value
    simp only [List.mem_filterMap, saidBy_eq_some_iff]
    constructor
    · rintro ⟨x, hx, rfl, hv⟩
      exact ⟨hx, hv⟩
    · rintro ⟨hx, hv⟩
      exact ⟨_, hx, rfl, hv⟩
  case own_of_blank =>
    intro hblank
    rw [ownTexts, if_pos ((getD_empty_iff css (p := (Text.isBlank · = true)) rfl).2 hblank)]
  case own_of_text =>
    rintro t rfl htext
    refine ⟨Text.trim t, ?_, Text.trims_trim t⟩
    rw [ownTexts, Option.getD_some, htext]
    rfl

/-! ## The settings of styles -/

/-- The settings of a box that are declared as they are given. -/
def Box.settings (b : Box) : List Setting :=
  [("background-color", b.backgroundColor), ("padding", b.padding), ("margin", b.margin), ("border", b.border)]

theorem GridLayout.columnTracks_eq (l : GridLayout) :
    l.columnTracks = (l.templateColumns.filter (· ≠ "")).getD ("repeat(" ++ toString l.columns.toInt ++ ", 1fr)") := by
  unfold columnTracks columnTracks.equalTracks
  cases l.templateColumns with
  | none => rfl
  | some t => by_cases ht : t = "" <;> simp [ht, Option.filter_some]

namespace ContainerStyle

/-- The settings of the layout in force. A grid whose template for the columns says nothing has equal tracks. -/
def layoutSettings (s : ContainerStyle) : List Setting :=
  match s.layout with
  | .flex => [("justify-content", some s.flex.justifyContent), ("align-items", some s.flex.alignItems), ("gap", some s.flex.gap)]
  | .grid =>
    let tracks := (s.grid.templateColumns.filter (· ≠ "")).getD ("repeat(" ++ toString s.grid.columns.toInt ++ ", 1fr)")
    [("grid-template-columns", some tracks), ("grid-template-rows", s.grid.templateRows), ("gap", some s.grid.gap)]
  | .columns => []

/-- The settings in force. -/
def settings (s : ContainerStyle) : List Setting := s.layoutSettings ++ s.box.settings

/-- The properties that a container with a layout sets, in the order in which they are declared. -/
def properties : LayoutKind → List String
  | .flex => ["justify-content", "align-items", "gap", "background-color", "padding", "margin", "border"]
  | .grid => ["grid-template-columns", "grid-template-rows", "gap", "background-color", "padding", "margin", "border"]
  | .columns => ["background-color", "padding", "margin", "border"]

theorem properties_nodup (k : LayoutKind) : (properties k).Nodup := by cases k <;> decide

theorem map_fst_settings (s : ContainerStyle) : s.settings.map Prod.fst = properties s.layout := by
  unfold settings layoutSettings
  cases s.layout <;> rfl

theorem declarations_styling (s : ContainerStyle) :
    s.styling.declarations = (s.settings.flatMap fun x => declareOptional x.1 x.2) ++ declareFree s.box.customCss := by
  unfold styling layoutStyling settings layoutSettings
  cases s.layout <;>
    simp [Box.declarations, Box.settings, FlexLayout.declarations, GridLayout.declarations, GridLayout.columnTracks_eq, declareOptional]

/-- Two styles that have one layout in force, with the same settings, and the same box. -/
structure SameInForce (s t : ContainerStyle) : Prop where
  layout : s.layout = t.layout
  flex : s.layout = .flex → s.flex = t.flex
  grid : s.layout = .grid → s.grid = t.grid
  box : s.box = t.box

/-- The settings of a layout that is not in force do not count. -/
theorem SameInForce.styling_eq {s t : ContainerStyle} (h : s.SameInForce t) : s.styling = t.styling := by
  have hlayout : s.layoutStyling = t.layoutStyling := by
    unfold layoutStyling
    rw [← h.layout]
    split
    · rename_i hk
      rw [h.flex hk]
    · rename_i hk
      rw [h.grid hk]
    · rfl
  rw [styling, styling, hlayout, h.box]

/-- What a container declares. -/
theorem declares (s : ContainerStyle) :
    Declares s.settings s.box.customCss s.styling.declarations (s.settings.filterMap saidBy) (ownTexts s.box.customCss) := by
  rw [declarations_styling]
  exact declares_flatMap (s.map_fst_settings ▸ properties_nodup s.layout) s.box.customCss

end ContainerStyle

namespace GridLayout

/-- The tracks that a grid has for its columns: the template, if it says anything, or as many equal tracks as there are columns. -/
structure HasTracks (l : GridLayout) (tracks : String) : Prop where
  template : ∀ t, l.templateColumns = some t → t ≠ "" → tracks = t
  equal : (∀ t, l.templateColumns = some t → t = "") → tracks = "repeat(" ++ toString l.columns.toInt ++ ", 1fr)"

theorem columnTracks_of_template {l : GridLayout} {t : String} (h : l.templateColumns = some t) (ht : t ≠ "") : l.columnTracks = t := by
  rw [columnTracks, h]
  exact if_neg (mt String.isEmpty_iff.1 ht)

theorem columnTracks_of_silent {l : GridLayout} (h : ∀ t, l.templateColumns = some t → t = "") :
    l.columnTracks = "repeat(" ++ toString l.columns.toInt ++ ", 1fr)" := by
  rw [columnTracks]
  split
  · rename_i t ht
    rw [h t ht]
    rfl
  · rfl

theorem hasTracks (l : GridLayout) : l.HasTracks l.columnTracks :=
  ⟨fun _ => columnTracks_of_template, columnTracks_of_silent⟩

/-- A grid always has tracks for its columns. -/
theorem columnTracks_ne_empty (l : GridLayout) : l.columnTracks ≠ "" := by
  by_cases h : ∀ t, l.templateColumns = some t → t = ""
  · rw [columnTracks_of_silent h]
    simp
  · push Not at h
    obtain ⟨t, ht, hne⟩ := h
    rw [columnTracks_of_template ht hne]
    exact hne

end GridLayout

/-- A grid says first what its columns are, and says it once. -/
theorem ContainerStyle.sets_of_grid {s : ContainerStyle} (h : s.layout = .grid) :
    ∃ rest, s.settings.filterMap saidBy = ("grid-template-columns", s.grid.columnTracks) :: rest ∧
      "grid-template-columns" ∉ rest.map Prod.fst := by
  have hfirst : ∃ settings, s.settings = ("grid-template-columns", some s.grid.columnTracks) :: settings := by
    rw [settings, layoutSettings, h, GridLayout.columnTracks_eq]
    exact ⟨_, rfl⟩
  obtain ⟨settings, hsettings⟩ := hfirst
  have hsaid := (saidBy_eq_some_iff _ ("grid-template-columns", s.grid.columnTracks)).2 ⟨rfl, s.grid.columnTracks_ne_empty⟩
  have honce := s.declares.once
  rw [hsettings, List.filterMap_cons_some hsaid] at honce ⊢
  exact ⟨_, rfl, (List.nodup_cons.1 honce).1⟩

namespace FieldStyle

/-- The settings that are declared as they are given, with their properties. -/
def settings (s : FieldStyle) : List Setting := [("width", s.width), ("color", s.color)] ++ s.box.settings

/-- The properties that a field sets, in the order in which they are declared. -/
def properties : List String := ["width", "color", "background-color", "padding", "margin", "border"]

theorem declarations_styling (s : FieldStyle) :
    s.styling.declarations = (s.settings.flatMap fun x => declareOptional x.1 x.2) ++ declareFree s.box.customCss := by
  simp [styling, settings, Box.declarations, Box.settings]

/-- What a field declares. -/
theorem declares (s : FieldStyle) :
    Declares s.settings s.box.customCss s.styling.declarations (s.settings.filterMap saidBy) (ownTexts s.box.customCss) := by
  have hnodup : (s.settings.map Prod.fst).Nodup := by
    show properties.Nodup
    decide
  rw [declarations_styling]
  exact declares_flatMap hnodup s.box.customCss

/-- The classes of a field are the words of its class attribute. -/
theorem words_classText (s : FieldStyle) : Text.words s.styling.classText = s.styling.classes :=
  Text.words_intercalate fun _ => Text.isWord_of_mem_words

end FieldStyle

/-- The style of a container comes to what the layout in force and the box say, whatever the settings of other layouts are. Each
setting in force that says something is declared once, in the order that is fixed for the layout, and the author's own text comes
last, without the blanks at its ends, if it is not blank. The first declaration of a grid, and no other, is that of its columns. So it
is with fields, whose classes are what their class attribute is cut into at its blanks. -/
theorem styling_declares :
    (∀ s t : ContainerStyle, s.SameInForce t → s.styling = t.styling) ∧
      (∀ s : ContainerStyle, s.settings.map Prod.fst = ContainerStyle.properties s.layout ∧
        ∃ sets own, Declares s.settings s.box.customCss s.styling.declarations sets own ∧
          (s.layout = .grid → ∃ tracks rest, sets = ("grid-template-columns", tracks) :: rest ∧
            "grid-template-columns" ∉ rest.map Prod.fst ∧ s.grid.HasTracks tracks)) ∧
      ∀ s : FieldStyle, s.settings.map Prod.fst = FieldStyle.properties ∧
        (∃ sets own, Declares s.settings s.box.customCss s.styling.declarations sets own) ∧
        Text.words s.styling.classText = s.styling.classes ∧ s.styling.classes = Text.words (s.cssClass.getD "") := by
  refine ⟨fun s t => ContainerStyle.SameInForce.styling_eq, fun s => ⟨s.map_fst_settings, _, _, s.declares, fun h => ?_⟩,
    fun s => ⟨rfl, ⟨_, _, s.declares⟩, s.words_classText, rfl⟩⟩
  obtain ⟨rest, hsets, honce⟩ := ContainerStyle.sets_of_grid h
  exact ⟨_, rest, hsets, honce, s.grid.hasTracks⟩

/-- Two grids of a negative number of columns, with an empty template, that have different flex settings. -/
theorem styling_declares_idle_flex :
    let s : ContainerStyle := { layout := .grid, grid := { columns := -2, templateColumns := some "", gap := "" } }
    let t : ContainerStyle := { s with flex := { direction := "column", wrap := true } }
    s.SameInForce t ∧ s ≠ t ∧ s.styling = t.styling ∧
      s.styling.declarations.map Declaration.text = ["grid-template-columns: repeat(-2, 1fr);"] := by
  intro s t
  have hsame : s.SameInForce t := ⟨rfl, nofun, fun _ => rfl, rfl⟩
  exact ⟨hsame, by decide, styling_declares.1 s t hsame, by decide⟩

end Webform
