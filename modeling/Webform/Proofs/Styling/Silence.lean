import Mathlib.Data.List.DropRight
import Webform.Styling

/-!
# Field styles that show nothing

A field style shows nothing when it comes to no class and no declaration, and that is when each of its settings that is present says
nothing (`FieldStyle.Silent`): it is empty or, where blanks do not count, blank. `FieldStyle.isEmpty` asks for less. It looks for settings
that are present, whatever they say. So it is wrong about a style that has settings of which none says anything, and right about all
others (`FieldStyle.isEmpty_eq_isEmpty_styling_iff`).
-/

namespace Webform

/-! ## Blank texts -/

namespace Text

theorem wordsFrom_eq_nil_iff (word cs : List Char) : wordsFrom word cs = [] ↔ word = [] ∧ ∀ c ∈ cs, isBlankChar c = true := by
  induction cs generalizing word with
  | nil => cases word <;> simp [wordsFrom]
  | cons c cs ih =>
    cases hc : isBlankChar c with
    | true => cases word <;> simp [wordsFrom, hc, ih]
    | false => simp [wordsFrom, hc, ih]

/-- A text without words is blank. -/
theorem words_eq_nil_iff (s : String) : words s = [] ↔ isBlank s = true := by
  simp [words, isBlank, wordsFrom_eq_nil_iff]

theorem trimStart_eq_nil_iff (cs : List Char) : trimStart cs = [] ↔ ∀ c ∈ cs, isBlankChar c = true := List.dropWhile_eq_nil_iff

/-- A text of which nothing is left without the blanks around it is blank. -/
theorem trim_eq_empty_iff (s : String) : trim s = "" ↔ isBlank s = true := by
  have hstart : trimStart (trimStart s.toList) = trimStart s.toList := List.dropWhile_idempotent isBlankChar s.toList
  have hend : trimEnd (trimStart s.toList) = [] ↔ trimStart (trimStart s.toList) = [] := by
    simp only [trimEnd, List.reverse_eq_nil_iff, trimStart_eq_nil_iff, List.mem_reverse]
  rw [trim, isBlank, ← String.toList_eq_nil_iff, String.toList_ofList, hend, hstart, trimStart_eq_nil_iff, List.all_eq_true]

end Text

/-! ## Settings that say nothing -/

section

variable (o : Option String)

theorem getD_empty_iff {p : String → Prop} (h : p "") : p (o.getD "") ↔ ∀ v, o = some v → p v := by
  cases o <;> simp [h]

theorem declareOptional_eq_nil_iff (property : String) : declareOptional property o = [] ↔ ∀ v, o = some v → v = "" := by
  rw [← getD_empty_iff o (p := (· = "")) rfl]
  simp [declareOptional, declare]

theorem declareFree_eq_nil_iff : declareFree o = [] ↔ ∀ t, o = some t → Text.isBlank t = true := by
  rw [← getD_empty_iff o (p := (Text.isBlank · = true)) rfl, ← Text.trim_eq_empty_iff]
  simp [declareFree]

theorem words_getD_eq_nil_iff : Text.words (o.getD "") = [] ↔ ∀ t, o = some t → Text.isBlank t = true := by
  rw [← getD_empty_iff o (p := (Text.isBlank · = true)) rfl, Text.words_eq_nil_iff]

end

namespace FieldStyle

/-- The settings that are declared as they are given. -/
def verbatim (s : FieldStyle) : List (Option String) :=
  [s.width, s.color, s.box.backgroundColor, s.box.padding, s.box.margin, s.box.border]

/-- The settings in which blanks at either end do not count: the classes and the author's own declarations. -/
def trimmed (s : FieldStyle) : List (Option String) := [s.cssClass, s.box.customCss]

/-- No setting that is present says anything. -/
structure Silent (s : FieldStyle) : Prop where
  verbatim : ∀ v, some v ∈ s.verbatim → v = ""
  trimmed : ∀ t, some t ∈ s.trimmed → Text.isBlank t = true

/-- No setting is present. -/
structure Unset (s : FieldStyle) : Prop where
  verbatim : ∀ v, some v ∉ s.verbatim
  trimmed : ∀ t, some t ∉ s.trimmed

theorem Unset.silent {s : FieldStyle} (h : s.Unset) : s.Silent :=
  ⟨fun v hv => absurd hv (h.verbatim v), fun t ht => absurd ht (h.trimmed t)⟩

theorem isEmpty_iff_unset (s : FieldStyle) : s.isEmpty = true ↔ s.Unset := by
  rw [isEmpty, beq_iff_eq]
  constructor
  · rintro rfl
    exact ⟨by simp [FieldStyle.verbatim], by simp [FieldStyle.trimmed]⟩
  · rintro ⟨hverbatim, htrimmed⟩
    obtain ⟨cssClass, width, color, backgroundColor, padding, margin, border, customCss⟩ := s
    simp only [FieldStyle.verbatim, FieldStyle.trimmed, List.mem_cons, List.not_mem_nil, or_false, not_or, forall_and,
      ← Option.eq_none_iff_forall_some_ne] at hverbatim htrimmed
    obtain ⟨rfl, rfl, rfl, rfl, rfl, rfl⟩ := hverbatim
    obtain ⟨rfl, rfl⟩ := htrimmed
    rfl

/-- A style comes to nothing exactly when none of its settings says anything. -/
theorem isEmpty_styling_iff (s : FieldStyle) : s.styling.isEmpty = true ↔ s.Silent := by
  have hparts : s.styling.isEmpty = true ↔ (∀ v, some v ∈ s.verbatim → v = "") ∧ ∀ t, some t ∈ s.trimmed → Text.isBlank t = true := by
    simp only [Styling.isEmpty, styling, Box.declarations, Bool.and_eq_true, List.isEmpty_iff, List.append_eq_nil_iff,
      words_getD_eq_nil_iff, declareOptional_eq_nil_iff, declareFree_eq_nil_iff, verbatim, trimmed, List.mem_cons, List.not_mem_nil,
      or_false, or_imp, forall_and, @eq_comm _ (some _)]
    tauto
  rw [hparts]
  exact ⟨fun h => ⟨h.1, h.2⟩, fun h => ⟨h.verbatim, h.trimmed⟩⟩

/-- A style that is empty shows nothing. Whether it is empty tells whether it shows nothing, unless all the settings that it has say
nothing, of which there is one at least. -/
theorem isEmpty_eq_isEmpty_styling_iff (s : FieldStyle) :
    (s.styling.isEmpty = true ↔ s.Silent) ∧ (s.isEmpty = true → s.styling.isEmpty = true) ∧
      (s.isEmpty = s.styling.isEmpty ↔ (s.Silent → s.Unset)) := by
  have hsame : s.isEmpty = s.styling.isEmpty ↔ (s.Unset ↔ s.Silent) := by
    rw [Bool.eq_iff_iff, isEmpty_iff_unset, isEmpty_styling_iff]
  rw [hsame, isEmpty_iff_unset, isEmpty_styling_iff]
  exact ⟨Iff.rfl, Unset.silent, Iff.mpr, fun h => ⟨Unset.silent, h⟩⟩

/-- A style whose width is the empty text has nothing to show, and is not empty. -/
theorem isEmpty_eq_isEmpty_styling_false :
    let s : FieldStyle := { width := some "" }
    s.styling = {} ∧ s.isEmpty = false ∧ ¬(s.isEmpty = true ↔ s.styling.isEmpty = true) := by
  decide

end FieldStyle

end Webform
