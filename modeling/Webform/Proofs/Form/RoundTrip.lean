import Webform.Form.Document
import Webform.Proofs.Json.Codecs

/-!
# Form documents read back

A form is read back from its document as it was, but for two things that a document cannot tell apart: a logic of `null` is read
as none, and an unknown tag that is a known one but for its case is read as the known kind (`Form.reread`).
-/

namespace Webform

open Json Codec

/-! ## What is read back -/

/-- The kind that is read back for a kind: an unknown tag is looked up once more. -/
def ControlKind.reread : ControlKind → ControlKind
  | unknown tag => ofTag tag
  | k => k

/-- The logic that is read back: `null` stands for none. -/
def Field.rereadLogic : Option Value → Option Value
  | some .null => none
  | logic => logic

def Field.reread (f : Field) : Field := { f with kind := f.kind.reread, logic := rereadLogic f.logic }

def Container.reread (c : Container) : Container := { c with fields := c.fields.map Field.reread }

def Step.reread (s : Step) : Step := { s with containers := s.containers.map Container.reread }

/-- The form that is read back for a form. -/
def Form.reread (f : Form) : Form :=
  { f with containers := f.containers.map Container.reread, steps := f.steps.map Step.reread }

/-- The fields of all containers of a form, those that its steps list included. -/
def Form.everyField (f : Form) : List Field := (f.containers ++ f.steps.flatMap (·.containers)).flatMap (·.fields)

/-! ## Restoring the parts -/

theorem FlexLayout.restores (s : FlexLayout) : record.codec.Restores s s := by
  refine Rebuilds.restores ?_ (by decide)
  exact .of (restores_text s.direction) <| .of (restores_text s.justifyContent) <| .of (restores_text s.alignItems) <|
    .of (restores_text s.gap) <| .of (restores_bool s.wrap) <| .nil s

theorem GridLayout.restores (s : GridLayout) : record.codec.Restores s s := by
  refine Rebuilds.restores ?_ (by decide)
  exact .of (restores_int32 s.columns) <| .of (restores_int32 s.rows) <| .of (restores_text s.gap) <|
    .of (restores_optional_text s.templateColumns) <| .of (restores_optional_text s.templateRows) <| .nil s

theorem LayoutKind.restores (k : LayoutKind) : codec.Restores k k := by
  cases k <;> exact restores_choice rfl

theorem ContainerKind.restores (k : ContainerKind) : codec.Restores k k := by
  cases k <;> exact restores_choice rfl

theorem ContainerStyle.restores (s : ContainerStyle) : record.codec.Restores s s := by
  refine Rebuilds.restores ?_ (by decide)
  exact .of s.layout.restores <| .of s.flex.restores <| .of s.grid.restores <| .of (restores_optional_text s.box.customCss) <|
    .of (restores_optional_text s.box.backgroundColor) <| .of (restores_optional_text s.box.padding) <|
    .of (restores_optional_text s.box.margin) <| .of (restores_optional_text s.box.border) <| .nil s

theorem FieldStyle.restores (s : FieldStyle) : record.codec.Restores s s := by
  refine Rebuilds.restores ?_ (by decide)
  exact .of (restores_optional_text s.cssClass) <| .of (restores_optional_text s.width) <| .of (restores_optional_text s.color) <|
    .of (restores_optional_text s.box.backgroundColor) <| .of (restores_optional_text s.box.padding) <|
    .of (restores_optional_text s.box.margin) <| .of (restores_optional_text s.box.border) <|
    .of (restores_optional_text s.box.customCss) <| .nil s

theorem Choice.restores (c : Choice) : record.codec.Restores c c := by
  refine Rebuilds.restores ?_ (by decide)
  exact .of (restores_nullableText c.value) <| .of (restores_nullableText c.text) <| .nil c

theorem restores_optional_count (n : Option UInt64) : (optional count).Restores n n := by
  cases n with
  | none => exact restores_none count
  | some n => exact restores_some (restores_count n) (by simp [count])

theorem Rules.restores (r : Rules) : record.codec.Restores r r := by
  refine Rebuilds.restores ?_ (by decide)
  exact .of (restores_optional_count r.minLength) <| .of (restores_optional_count r.maxLength) <|
    .of (restores_optional_text r.pattern) <| .of (restores_optional_text r.errorMessage) <| .nil r

namespace ControlKind

/-- The tags of known kinds have no capitals. -/
theorem map_toLower_tag {k : ControlKind} (h : k.isUnknown = false) : k.tag.map Char.toLower = k.tag := by
  rw [← String.toList_inj, String.toList_map]
  cases k with
  | unknown tag => cases h
  | _ => decide

/-- A kind other than an unknown one is found by its tag. -/
theorem ofTag_of_known {k : ControlKind} (h : k.isUnknown = false) {tag : String} (htag : tag.map Char.toLower = k.tag) :
    ofTag tag = k := by
  rw [ofTag, htag]
  cases k with
  | unknown tag => cases h
  | _ => rfl

theorem ofTag_tag (k : ControlKind) : ofTag k.tag = k.reread := by
  cases k with
  | unknown tag => rfl
  | _ => exact ofTag_of_known rfl (map_toLower_tag rfl)

/-- A tag is of no known kind exactly when it is none of their tags, whatever its case. -/
theorem ofTag_eq_unknown_iff (tag : String) :
    ofTag tag = unknown tag ↔ ∀ k : ControlKind, k.isUnknown = false → tag.map Char.toLower ≠ k.tag := by
  constructor
  · intro h k hk htag
    rw [ofTag_of_known hk htag] at h
    subst h
    cases hk
  · intro h
    have htext := h text rfl
    have hemail := h email rfl
    have hnumber := h number rfl
    have htextarea := h textarea rfl
    have hselect := h select rfl
    have hcheckbox := h checkbox rfl
    have hradio := h radio rfl
    simp_all [ofTag, ControlKind.tag]

end ControlKind

theorem ControlKind.restores (k : ControlKind) : codec.Restores k k.reread := by
  intro lim cs rest h
  have hread := restores_text k.tag lim cs rest h
  simp only [codec, hread, Scan.as, ofTag_tag]

/-- Logic that a text keeps is restored, but for `null`. -/
theorem Field.restores_logic {logic : Option Value} (h : ∀ v, logic = some v → v.Exact) :
    (optional value).Restores logic (rereadLogic logic) := by
  cases logic with
  | none => exact restores_none value
  | some v =>
    by_cases hnull : v = .null
    · subst hnull
      exact restores_none value
    · have hv : rereadLogic (some v) = some v := by
        unfold rereadLogic
        split
        · rename_i hlogic
          exact absurd (Option.some.inj hlogic) hnull
        · rfl
      rw [hv]
      exact restores_some (reads_value (h v rfl)) hnull

theorem Field.restores {f : Field} (h : ∀ v, f.logic = some v → v.Exact) : record.codec.Restores f f.reread := by
  refine Rebuilds.restores ?_ (by decide)
  have hchoices : (list Choice.record.codec).Restores f.choices (f.choices.map fun c => c) := restores_list fun c _ => c.restores
  rw [List.map_id'] at hchoices
  exact .of (restores_identifier f.id) <| .of f.kind.restores <| .of (restores_nullableText f.label) <|
    .of (restores_nullableText f.name) <| .of (restores_nullableText f.placeholder) <| .of (restores_nullableText f.tooltip) <|
    .of (restores_optional_text f.defaultValue) <| .of (restores_bool f.isRequired) <| .of f.rules.restores <|
    .of f.style.restores <| .of hchoices <| .of (restores_logic h) <| .nil f.reread

theorem Container.restores {c : Container} (h : ∀ g ∈ c.fields, ∀ v, g.logic = some v → v.Exact) :
    record.codec.Restores c c.reread := by
  refine Rebuilds.restores ?_ (by decide)
  exact .of (restores_identifier c.id) <| .of c.kind.restores <| .of (restores_list fun g hg => Field.restores (h g hg)) <|
    .of c.style.restores <| .nil c.reread

theorem Step.restores {s : Step} (h : ∀ c ∈ s.containers, ∀ g ∈ c.fields, ∀ v, g.logic = some v → v.Exact) :
    record.codec.Restores s s.reread := by
  refine Rebuilds.restores ?_ (by decide)
  exact .of (restores_int32 s.order) <| .of (restores_nullableText s.title) <|
    .of (restores_list fun c hc => Container.restores (h c hc)) <| .nil s.reread

namespace Form

theorem mem_everyField {f : Form} {g : Field} :
    g ∈ f.everyField ↔ (∃ c ∈ f.containers, g ∈ c.fields) ∨ ∃ s ∈ f.steps, ∃ c ∈ s.containers, g ∈ c.fields := by
  simp only [everyField, List.mem_flatMap, List.mem_append]
  constructor
  · rintro ⟨c, hc | ⟨s, hs, hc⟩, hg⟩
    · exact Or.inl ⟨c, hc, hg⟩
    · exact Or.inr ⟨s, hs, c, hc, hg⟩
  · rintro (⟨c, hc, hg⟩ | ⟨s, hs, c, hc, hg⟩)
    · exact ⟨c, Or.inl hc, hg⟩
    · exact ⟨c, Or.inr ⟨s, hs, hc⟩, hg⟩

theorem restores {f : Form} (h : ∀ g ∈ f.everyField, ∀ v, g.logic = some v → v.Exact) : record.codec.Restores f f.reread := by
  refine Rebuilds.restores ?_ (by decide)
  have hown : ∀ c ∈ f.containers, ∀ g ∈ c.fields, ∀ v, g.logic = some v → v.Exact :=
    fun c hc g hg => h g (mem_everyField.2 (Or.inl ⟨c, hc, hg⟩))
  have hsteps : ∀ s ∈ f.steps, ∀ c ∈ s.containers, ∀ g ∈ c.fields, ∀ v, g.logic = some v → v.Exact :=
    fun s hs c hc g hg => h g (mem_everyField.2 (Or.inr ⟨s, hs, c, hc, hg⟩))
  exact .of (restores_identifier f.id) <| .of (restores_nullableText f.title) <| .of (restores_nullableText f.description) <|
    .of (restores_list fun c hc => Container.restores (hown c hc)) <| .of (restores_bool f.isMultiStep) <|
    .of (restores_list fun s hs => Step.restores (hsteps s hs)) <| .of (restores_optional_text f.customCss) <|
    .of (restores_optional_text f.customJs) <| .nil f.reread

end Form

/-! ## Forms that are read back as they were -/

/-- A field that a document tells apart from every other: its logic is not `null`, and its tag, if unknown, is no known one in
another case. -/
def Field.Settled (g : Field) : Prop :=
  g.logic ≠ some .null ∧
    ∀ tag, g.kind = .unknown tag → ∀ k : ControlKind, k.isUnknown = false → tag.map Char.toLower ≠ k.tag

theorem ControlKind.reread_eq_iff (k : ControlKind) :
    k.reread = k ↔ ∀ tag, k = .unknown tag → ∀ k' : ControlKind, k'.isUnknown = false → tag.map Char.toLower ≠ k'.tag := by
  cases k with
  | unknown tag =>
    refine (ofTag_eq_unknown_iff tag).trans ⟨fun h t ht => ?_, fun h => h tag rfl⟩
    cases ht
    exact h
  | _ => simp [reread]

theorem Field.rereadLogic_eq_iff (logic : Option Value) : rereadLogic logic = logic ↔ logic ≠ some .null := by
  unfold rereadLogic
  split <;> simp_all

theorem Field.reread_eq_iff (g : Field) : g.reread = g ↔ g.Settled := by
  have hparts : g.reread = g ↔ g.kind.reread = g.kind ∧ rereadLogic g.logic = g.logic := by
    cases g
    simp [reread]
  rw [hparts, ControlKind.reread_eq_iff, rereadLogic_eq_iff, Settled, and_comm]

theorem map_eq_self_iff {α : Type} (f : α → α) (as : List α) : as.map f = as ↔ ∀ a ∈ as, f a = a := by
  simpa using List.map_inj_left (l := as) (f := f) (g := fun a => a)

theorem Container.reread_eq_iff (c : Container) : c.reread = c ↔ ∀ g ∈ c.fields, g.Settled := by
  have hparts : c.reread = c ↔ c.fields.map Field.reread = c.fields := by
    cases c
    simp [reread]
  simp only [hparts, map_eq_self_iff, Field.reread_eq_iff]

theorem Step.reread_eq_iff (s : Step) : s.reread = s ↔ ∀ c ∈ s.containers, ∀ g ∈ c.fields, g.Settled := by
  have hparts : s.reread = s ↔ s.containers.map Container.reread = s.containers := by
    cases s
    simp [reread]
  simp only [hparts, map_eq_self_iff, Container.reread_eq_iff]

namespace Form

theorem reread_eq_iff (f : Form) : f.reread = f ↔ ∀ g ∈ f.everyField, g.Settled := by
  have hparts : f.reread = f ↔ f.containers.map Container.reread = f.containers ∧ f.steps.map Step.reread = f.steps := by
    cases f
    simp [reread]
  simp only [hparts, map_eq_self_iff, Container.reread_eq_iff, Step.reread_eq_iff, mem_everyField]
  constructor
  · rintro ⟨hown, hsteps⟩ g (⟨c, hc, hg⟩ | ⟨s, hs, c, hc, hg⟩)
    · exact hown c hc g hg
    · exact hsteps s hs c hc g hg
  · intro h
    exact ⟨fun c hc g hg => h g (Or.inl ⟨c, hc, hg⟩), fun s hs c hc g hg => h g (Or.inr ⟨s, hs, c, hc, hg⟩)⟩

/-- The document of a form is read back, set on one line or on indented lines, as the form with its unknown tags looked up and
`null` for logic dropped; so the form itself comes back exactly when all of its fields are settled. The logic of its fields has
to be such as a text keeps, and the document must not nest too deep to be read. -/
theorem ofText_toText (f : Form) (hlogic : ∀ g ∈ f.everyField, ∀ v, g.logic = some v → v.Exact)
    (hdepth : (record.codec.write f).depth ≤ 127) :
    ofText f.toText = .ok f.reread ∧ ofText (record.codec.compact f) = .ok f.reread ∧
      (ofText f.toText = .ok f ↔ ∀ g ∈ f.everyField, g.Settled) ∧
      (ofText (record.codec.compact f) = .ok f ↔ ∀ g ∈ f.everyField, g.Settled) := by
  have hpretty : ofText f.toText = .ok f.reread := (restores hlogic).ofText hdepth Layout.spaced_pretty
  have hcompact : ofText (record.codec.compact f) = .ok f.reread := (restores hlogic).ofText hdepth Layout.spaced_compact
  have hsame : (Except.ok f.reread : Except Failure Form) = .ok f ↔ ∀ g ∈ f.everyField, g.Settled := by
    rw [Except.ok.injEq]
    exact f.reread_eq_iff
  exact ⟨hpretty, hcompact, hpretty ▸ hsame, hcompact ▸ hsame⟩

/-- A form with logic that is kept in a step's container, logic of `null` and a tag in capitals; the latter two are not read
back. -/
theorem ofText_toText_tag_in_capitals :
    let f : Form := {
      containers := [{ fields := [{ kind := .unknown "TEXT", logic := some .null }] }]
      steps := [{ containers := [{ fields := [
        { logic := some (.object [("if", .array [.number (.integer 1), .bool true])]) }] }] }] }
    ofText f.toText = .ok f.reread ∧ ofText f.toText ≠ .ok f := by
  intro f
  have hlogic : ∀ g ∈ f.everyField, ∀ v, g.logic = some v → v.Exact := by
    have hkept : Value.Exact (.object [("if", .array [.number (.integer 1), .bool true])]) := by
      refine .object (by decide) fun m hm => ?_
      rw [List.mem_singleton.1 hm]
      refine .array fun w hw => ?_
      simp only [List.mem_cons, List.not_mem_nil, or_false] at hw
      rcases hw with rfl | rfl
      · exact .integer (by decide)
      · exact .bool true
    intro g hg v hv
    simp only [f, everyField, List.flatMap_cons, List.flatMap_nil, List.append_nil, List.cons_append, List.nil_append,
      List.mem_cons, List.not_mem_nil, or_false] at hg
    rcases hg with rfl | rfl
    · cases hv
      exact .null
    · cases hv
      exact hkept
  obtain ⟨hread, -, hsame, -⟩ := ofText_toText f hlogic (by decide)
  exact ⟨hread, fun h => ((hsame.1 h) _ (by simp [f, everyField]; exact Or.inl rfl)).1 rfl⟩

end Form

end Webform
