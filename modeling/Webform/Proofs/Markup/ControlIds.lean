import Mathlib.Data.List.Nodup
import Mathlib.Data.List.Pairwise
import Webform.Proofs.Validation.Controls

/-!
# The identifiers of controls

A field with one control has its name as the identifier of the control; a box of a checkbox or radio field has the name of the
field and the value of its choice with an underscore between them. Names and values may have underscores of their own, so that two
fields may come to one identifier. `Field.Meets` says when they do, and `Form.render_controlIds` that there is no other way: where
no two fields meet, all identifiers differ and the label of each choice names the box beside it and nothing else.
-/

namespace Webform

open Markup

/-! ## What is gathered from markup -/

namespace Markup

section

variable {α : Type} (v : String → List Attribute → List Tree → List α)

mutual

/-- What all elements of a tree give, in order: each its own first, then those in it. -/
def Tree.gather : Tree → List α
  | .text _ => []
  | .element name as children => v name as children ++ gatherIn children

def gatherIn : List Tree → List α
  | [] => []
  | t :: ts => t.gather ++ gatherIn ts

end

theorem gatherIn_append (ts us : List Tree) : gatherIn v (ts ++ us) = gatherIn v ts ++ gatherIn v us := by
  induction ts with
  | nil => rfl
  | cons t ts ih => rw [List.cons_append, gatherIn, gatherIn, ih, List.append_assoc]

theorem gatherIn_map {β : Type} (tree : β → Tree) (bs : List β) :
    gatherIn v (bs.map tree) = bs.flatMap fun b => (tree b).gather v := by
  induction bs with
  | nil => rfl
  | cons b bs ih => rw [List.map_cons, gatherIn, ih, List.flatMap_cons]

@[simp] theorem gatherIn_textTree (text : String) : gatherIn v (textTree text) = [] := by
  unfold textTree
  split <;> rfl

end

@[simp] theorem Attribute.of_inj {name value name' value' : String} :
    Attribute.of name value = .of name' value' ↔ name = name' ∧ value = value' := by
  simp [Attribute.of]

/-- The identifiers among attributes. -/
def idsOf (as : List Attribute) : List String := (withName "id" as).filterMap (·.value)

@[simp] theorem idsOf_nil : idsOf [] = [] := rfl

@[simp] theorem idsOf_append (as bs : List Attribute) : idsOf (as ++ bs) = idsOf as ++ idsOf bs := by
  rw [idsOf, withName_append, List.filterMap_append, idsOf, idsOf]

@[simp] theorem idsOf_cons (name value : String) (as : List Attribute) :
    idsOf (.of name value :: as) = if name = "id" then value :: idsOf as else idsOf as := by
  rw [idsOf, withName_cons]
  split <;> rfl

@[simp] theorem idsOf_flagAttribute (condition : Bool) (name : String) : idsOf (flagAttribute condition name) = [] := by
  rw [idsOf, withName_flagAttribute]
  split
  · cases condition <;> rfl
  · rfl

@[simp] theorem idsOf_settingAttribute {name : String} (h : name ≠ "id") (setting : Option String) :
    idsOf (settingAttribute name setting) = [] := by
  rw [idsOf, withName_settingAttribute, if_neg h]
  rfl

/-- The identifiers of all elements, in order. -/
def idsIn (ts : List Tree) : List String := gatherIn (fun _ as _ => idsOf as) ts

/-- The identifiers of the elements that take a value, in order. -/
def controlIdsIn (ts : List Tree) : List String :=
  gatherIn (fun name as _ => if ["input", "textarea", "select"].contains name then idsOf as else []) ts

/-- Whether attributes are those of the block of a choice. -/
def IsChoiceBlock (as : List Attribute) : Prop := withName "class" as = [.of "class" "form-check"]

instance (as : List Attribute) : Decidable (IsChoiceBlock as) := inferInstanceAs (Decidable (_ = _))

/-- What the blocks of choices hold, in order. -/
def choiceBlocksIn (ts : List Tree) : List (List Tree) :=
  gatherIn (fun _ as children => if IsChoiceBlock as then [children] else []) ts

/-- A box with an identifier, and a label that is for it. -/
def IsLabelledBox (key : String) (children : List Tree) : Prop :=
  ∃ box label text, children = [.element "input" box [], .element "label" label text] ∧ idsOf box = [key] ∧
    withName "for" label = [.of "for" key]

/-- Attributes without an identifier, and not those of the block of a choice. -/
structure IsPlainElement (as : List Attribute) : Prop where
  ids : idsOf as = []
  noBlock : ¬IsChoiceBlock as

/-- What is gathered comes from elements that have an identifier or are blocks of choices. -/
def IgnoresPlain {α : Type} (v : String → List Attribute → List Tree → List α) : Prop :=
  ∀ name as children, IsPlainElement as → v name as children = []

theorem ignoresPlain_ids : IgnoresPlain fun _ as _ => idsOf as := fun _ _ _ h => h.ids

theorem ignoresPlain_controlIds :
    IgnoresPlain fun name as _ => if ["input", "textarea", "select"].contains name then idsOf as else [] := by
  intro name as children h
  simp only [h.ids, ite_self]

theorem ignoresPlain_choiceBlocks :
    IgnoresPlain fun _ as (children : List Tree) => if IsChoiceBlock as then [children] else [] :=
  fun _ _ _ h => if_neg h.noBlock

end Markup

/-! ## Elements without identifiers -/

/-- An element is no block of a choice if its class attribute is another. -/
theorem Markup.IsPlainElement.of_class {classes : String} {as : List Attribute} (hclasses : classes ≠ "form-check") (h : idsOf as = []) :
    IsPlainElement (.of "class" classes :: as) where
  ids := by
    rw [idsOf_cons, if_neg (by decide)]
    exact h
  noBlock := by
    rw [IsChoiceBlock, withName_cons, if_pos rfl]
    intro heq
    have hvalue := congrArg Attribute.value (List.cons.inj heq).1
    exact hclasses (Option.some.inj hvalue)

theorem idsOf_declaredAttribute (settings : List Setting) (css : Option String) : idsOf (declaredAttribute settings css) = [] := by
  unfold declaredAttribute
  split
  · rfl
  · simp

theorem container_classes_ne (more : List String) : " ".intercalate (["form-container"] ++ more) ≠ "form-check" := by
  rw [ne_eq, ← String.toList_inj, String.toList_intercalate]
  cases more <;> simp [List.intercalate]

theorem group_classes_ne (more : List String) : " ".intercalate (["form-group", "mb-3"] ++ more) ≠ "form-check" := by
  rw [ne_eq, ← String.toList_inj, String.toList_intercalate]
  simp [List.intercalate]

section

variable {α : Type} {v : String → List Attribute → List Tree → List α}

theorem gatherIn_textElements (hv : IgnoresPlain v) {as : List Attribute} (has : IsPlainElement as) (name text : String) :
    gatherIn v (textElements name as text) = [] := by
  unfold textElements
  split
  · rfl
  · simp [gatherIn, Tree.gather, hv name as _ has]

/-- The group of a field gives what the control gives. -/
theorem Field.gather_tree (hv : IgnoresPlain v) (f : Field) : f.tree.gather v = gatherIn v f.controlTrees := by
  have hids : idsOf (.of "data-field-id" f.id.toString :: declaredAttribute f.style.settings f.style.box.customCss) = [] := by
    rw [idsOf_cons, if_neg (by decide)]
    exact idsOf_declaredAttribute _ _
  have hgroup := IsPlainElement.of_class (group_classes_ne (Text.words (f.style.cssClass.getD ""))) hids
  have hlabel : IsPlainElement [.of "for" f.name, .of "class" "form-label"] :=
    ⟨by simp, by simp [IsChoiceBlock]⟩
  have htooltip : IsPlainElement [.of "class" "form-text text-muted"] := ⟨by decide, by decide⟩
  rw [tree, Tree.gather, hv _ _ _ hgroup, gatherIn_append, gatherIn_append, gatherIn_textElements hv hlabel,
    gatherIn_textElements hv htooltip]
  simp

theorem Container.gather_tree (hv : IgnoresPlain v) (semantic : Bool) (c : Container) :
    (c.tree semantic).gather v = c.fields.flatMap fun f => gatherIn v f.controlTrees := by
  have hplain := IsPlainElement.of_class (container_classes_ne c.style.layoutClasses)
    (idsOf_declaredAttribute c.style.settings c.style.box.customCss)
  rw [tree, Tree.gather, hv _ _ _ hplain, gatherIn_map, List.nil_append]
  simp only [Field.gather_tree hv]

namespace Form

theorem gatherIn_bodyElements (hv : IgnoresPlain v) (name : String) (text : Option String) :
    gatherIn v (bodyElements name text) = [] := by
  cases text with
  | none => rfl
  | some t =>
    unfold bodyElements
    simp only
    split
    · rfl
    · simp [gatherIn, Tree.gather, hv name [] _ ⟨rfl, by decide⟩]

/-- The identifier of the form's element and its class. -/
def ownAttributes (f : Form) : List Attribute := [.of "id" ("form-" ++ f.id.toString), .of "class" "dynamic-form"]

theorem gatherIn_fragmentTrees (hv : IgnoresPlain v) (semantic : Bool) (f : Form) :
    gatherIn v (f.fragmentTrees semantic) = v "form" f.ownAttributes (f.containers.map (Container.tree semantic)) ++
      f.fields.flatMap fun g => gatherIn v g.controlTrees := by
  rw [fragmentTrees, gatherIn, Tree.gather, gatherIn_append, gatherIn_bodyElements hv, gatherIn_bodyElements hv, gatherIn_map,
    fields, List.flatMap_assoc]
  simp only [Container.gather_tree hv, List.append_nil]
  rfl

/-- The markup of a form gives what the form's element and the controls of its fields give. -/
theorem gatherIn_trees (hv : IgnoresPlain v) (o : RenderOptions) (f : Form) :
    gatherIn v (f.trees o) = v "form" f.ownAttributes (f.containers.map (Container.tree o.semantic)) ++
      f.fields.flatMap fun g => gatherIn v g.controlTrees := by
  have hnone : IsPlainElement [] := ⟨rfl, by decide⟩
  have hlang : IsPlainElement [.of "lang" "en"] := ⟨by decide, by decide⟩
  have hcharset : IsPlainElement [.of "charset" "UTF-8"] := ⟨by decide, by decide⟩
  have hviewport : IsPlainElement [.of "name" "viewport", .of "content" "width=device-width, initial-scale=1.0"] :=
    ⟨by decide, by decide⟩
  have htitle : IsPlainElement [.of "class" "form-title"] := ⟨by decide, by decide⟩
  have hdescription : IsPlainElement [.of "class" "form-description"] := ⟨by decide, by decide⟩
  unfold trees
  split
  · simp only [pageTree, gatherIn, Tree.gather, gatherIn_append, hv _ _ _ hnone, hv _ _ _ hlang, hv _ _ _ hcharset,
      hv _ _ _ hviewport, gatherIn_textElements hv hnone, gatherIn_textElements hv htitle, gatherIn_textElements hv hdescription,
      gatherIn_bodyElements hv, gatherIn_fragmentTrees hv, List.nil_append, List.append_nil]
  · exact f.gatherIn_fragmentTrees hv o.semantic

end Form

end

/-! ## The identifiers of a field -/

/-- Whether a field of the kind has one control, which goes by the name of the field. -/
def ControlKind.isSingle : ControlKind → Bool
  | text | email | number | textarea | select => true
  | _ => false

/-- Whether a field of the kind has a box for each of its choices. -/
def ControlKind.hasBoxes : ControlKind → Bool
  | checkbox | radio => true
  | _ => false

namespace Field

/-- The values of the choices of a field. -/
def values (f : Field) : List String := f.choices.map (·.value)

/-- The choices that have a box. -/
def boxes (f : Field) : List Choice := if f.kind.hasBoxes then f.choices else []

/-- The identifiers of the controls of a field. -/
def controlIds (f : Field) : List String := if f.kind.isSingle then [f.name] else f.boxes.map f.choiceKey

/-- The elements of a control that have an identifier are those that take a value, and they have the identifiers of the field. -/
theorem idsIn_controlTrees (f : Field) : idsIn f.controlTrees = f.controlIds ∧ controlIdsIn f.controlTrees = f.controlIds := by
  have hboxes : (f.choices.flatMap fun c => [f.name ++ "_" ++ c.value]) = f.choices.map f.choiceKey := List.map_eq_flatMap.symm
  have hoptions : (f.choices.flatMap fun _ => ([] : List String)) = [] := List.flatMap_eq_nil_iff.2 fun _ _ => rfl
  unfold controlTrees controlIds boxes
  cases f.kind <;>
    simp [idsIn, controlIdsIn, gatherIn, Tree.gather, inputTree, textRules, ControlKind.isSingle, ControlKind.hasBoxes,
      lengthRules, gatherIn_map, choiceTree, textElement, hboxes, hoptions]

/-- In each block of a choice the label is for the box beside it. -/
theorem forall₂_choiceBlocksIn_controlTrees (f : Field) :
    List.Forall₂ IsLabelledBox (f.boxes.map f.choiceKey) (choiceBlocksIn f.controlTrees) := by
  have hblocks : ∀ (type : String) (required : List Attribute), idsOf required = [] →
      List.Forall₂ IsLabelledBox (f.choices.map f.choiceKey) (choiceBlocksIn (f.choices.map (f.choiceTree type required))) := by
    intro type required hrequired
    have hblock : choiceBlocksIn (f.choices.map (f.choiceTree type required)) = f.choices.map fun c =>
        [.element "input" ([.of "class" "form-check-input", .of "type" type, .of "id" (f.name ++ "_" ++ c.value), .of "name" f.name,
          .of "value" c.value] ++ flagAttribute (f.defaultValue = some c.value) "checked" ++ required) [],
          textElement "label" [.of "class" "form-check-label", .of "for" (f.name ++ "_" ++ c.value)] c.text] := by
      rw [choiceBlocksIn, gatherIn_map, List.map_eq_flatMap]
      simp [choiceTree, Tree.gather, gatherIn, IsChoiceBlock, textElement]
    rw [hblock, List.forall₂_map_left_iff, List.forall₂_map_right_iff, List.forall₂_same]
    refine fun c _ => ⟨_, _, _, rfl, ?_, by simp [choiceKey]⟩
    simp [choiceKey, hrequired]
  unfold controlTrees boxes
  cases f.kind
  case checkbox => exact hblocks "checkbox" [] rfl
  case radio => exact hblocks "radio" _ (idsOf_flagAttribute _ _)
  all_goals
    simp [choiceBlocksIn, gatherIn, Tree.gather, inputTree, IsChoiceBlock, textRules, ControlKind.hasBoxes,
      lengthRules, gatherIn_map, textElement]

end Field

/-! ## Fields that meet -/

namespace Field

variable {g h : Field}

/-- A field with one control has no boxes. -/
theorem mem_controlIds {f : Field} {key : String} :
    key ∈ f.controlIds ↔ (f.kind.isSingle = true ∧ key = f.name) ∨ ∃ c ∈ f.boxes, key = f.choiceKey c := by
  unfold controlIds boxes
  cases f.kind <;> simp [ControlKind.isSingle, ControlKind.hasBoxes, eq_comm]

/-- A box of `g` has the identifier of a control of `h`: the name of `h` is that of `g`, continued by an underscore and a text that
is a value of `g`, or becomes one with an underscore and a value of `h` after it. -/
def Meets (g h : Field) : Prop :=
  ∃ x, h.name = g.name ++ "_" ++ x ∧ ((h.kind.isSingle = true ∧ ∃ c ∈ g.boxes, c.value = x) ∨
    ∃ c ∈ g.boxes, ∃ d ∈ h.boxes, c.value = x ++ "_" ++ d.value)

/-- Fields that meet have an identifier in common. -/
theorem Meets.exists_key (hmeets : g.Meets h) : ∃ key, key ∈ g.controlIds ∧ key ∈ h.controlIds := by
  obtain ⟨x, hname, ⟨hsingle, c, hc, rfl⟩ | ⟨c, hc, d, hd, hvalue⟩⟩ := hmeets
  · exact ⟨h.name, mem_controlIds.2 (Or.inr ⟨c, hc, hname⟩), mem_controlIds.2 (Or.inl ⟨hsingle, rfl⟩)⟩
  · refine ⟨h.choiceKey d, mem_controlIds.2 (Or.inr ⟨c, hc, ?_⟩), mem_controlIds.2 (Or.inr ⟨d, hd, rfl⟩)⟩
    simp only [choiceKey, hname, hvalue, String.append_assoc]

/-- The name of a field that another one meets is the longer one. -/
theorem Meets.name_ne (hmeets : g.Meets h) : g.name ≠ h.name := by
  obtain ⟨x, hname, -⟩ := hmeets
  intro heq
  have hlength := congrArg String.length (heq.trans hname)
  simp only [String.length_append] at hlength
  have hone : "_".length = 1 := rfl
  omega

/-- One of two different names continues the other by an underscore where both come to one text with values after them. -/
theorem exists_continued {a b v w : String} (hne : a ≠ b) (heq : a ++ "_" ++ v = b ++ "_" ++ w) :
    (∃ x, b = a ++ "_" ++ x ∧ v = x ++ "_" ++ w) ∨ ∃ x, a = b ++ "_" ++ x ∧ w = x ++ "_" ++ v := by
  -- Where one name is a start of the other, what is left of it after the underscore.
  have hstart : ∀ {a b v w : String} {rest : List Char}, a ≠ b → b.toList = a.toList ++ rest →
      '_' :: v.toList = rest ++ '_' :: w.toList → ∃ x, b = a ++ "_" ++ x ∧ v = x ++ "_" ++ w := by
    intro a b v w rest hne hb hv
    cases rest with
    | nil =>
      rw [List.append_nil] at hb
      exact absurd (String.toList_inj.1 hb).symm hne
    | cons c x =>
      obtain ⟨rfl, hv⟩ := List.cons.inj hv
      refine ⟨.ofList x, ?_, ?_⟩ <;> rw [← String.toList_inj]
      · simpa using hb
      · simpa using hv
  have hlists : a.toList ++ '_' :: v.toList = b.toList ++ '_' :: w.toList := by
    have := congrArg String.toList heq
    simpa using this
  rcases List.append_eq_append_iff.1 hlists with ⟨rest, hb, hv⟩ | ⟨rest, ha, hw⟩
  · exact Or.inl (hstart hne hb hv)
  · exact Or.inr (hstart hne.symm ha hw)

/-- Fields of different names that have an identifier in common meet one way or the other. -/
theorem meets_of_mem_controlIds {key : String} (hne : g.name ≠ h.name) (hg : key ∈ g.controlIds) (hh : key ∈ h.controlIds) :
    g.Meets h ∨ h.Meets g := by
  rcases mem_controlIds.1 hg with ⟨hgsingle, rfl⟩ | ⟨c, hc, rfl⟩ <;> rcases mem_controlIds.1 hh with ⟨hhsingle, hkey⟩ | ⟨d, hd, hkey⟩
  · exact absurd hkey hne
  · exact Or.inr ⟨d.value, hkey, Or.inl ⟨hgsingle, d, hd, rfl⟩⟩
  · exact Or.inl ⟨c.value, hkey.symm, Or.inl ⟨hhsingle, c, hc, rfl⟩⟩
  · rcases exists_continued hne hkey with ⟨x, hname, hvalue⟩ | ⟨x, hname, hvalue⟩
    · exact Or.inl ⟨x, hname, Or.inr ⟨c, hc, d, hd, hvalue⟩⟩
    · exact Or.inr ⟨x, hname, Or.inr ⟨d, hd, c, hc, hvalue⟩⟩

/-- The identifiers of one field differ if the values of its choices do. -/
theorem nodup_controlIds {f : Field} (hvalues : (f.choices.map (·.value)).Nodup) : f.controlIds.Nodup := by
  have hkeys : (f.choices.map f.choiceKey).Nodup := by
    have hinj : Function.Injective fun value => f.name ++ "_" ++ value := fun _ _ => (String.append_right_inj _).1
    have hmap := hvalues.map hinj
    rwa [List.map_map] at hmap
  unfold controlIds boxes
  split
  · exact List.nodup_singleton _
  · split
    · exact hkeys
    · exact List.nodup_nil

/-- The identifiers of fields all differ exactly when no two of the fields meet. -/
theorem nodup_flatMap_controlIds_iff {fs : List Field} (hnames : (fs.map (·.name)).Nodup)
    (hvalues : ∀ f ∈ fs, (f.choices.map (·.value)).Nodup) :
    (fs.flatMap controlIds).Nodup ↔ ∀ g ∈ fs, ∀ h ∈ fs, ¬g.Meets h := by
  rw [List.nodup_flatMap]
  constructor
  · rintro ⟨-, hdisjoint⟩ g hg h hh hmeets
    have hne : g ≠ h := fun heq => hmeets.name_ne (congrArg Field.name heq)
    obtain ⟨key, hkeyg, hkeyh⟩ := hmeets.exists_key
    have : Std.Symm (Function.onFun List.Disjoint controlIds) := ⟨fun _ _ h _ hb ha => h ha hb⟩
    exact hdisjoint.forall hg hh hne hkeyg hkeyh
  · intro hapart
    refine ⟨fun f hf => nodup_controlIds (hvalues f hf), ?_⟩
    refine (List.pairwise_map.1 hnames).imp_of_mem fun {g h} hg hh hne key hkeyg hkeyh => ?_
    rcases meets_of_mem_controlIds hne hkeyg hkeyh with hmeets | hmeets
    · exact hapart g hg h hh hmeets
    · exact hapart h hh g hg hmeets

end Field

/-! ## The identifiers of a form -/

namespace Form

theorem controlIdsIn_trees (o : RenderOptions) (f : Form) : controlIdsIn (f.trees o) = f.fields.flatMap Field.controlIds := by
  rw [controlIdsIn, gatherIn_trees ignoresPlain_controlIds]
  simp only [← controlIdsIn.eq_def, (Field.idsIn_controlTrees _).2]
  rfl

theorem idsIn_trees (o : RenderOptions) (f : Form) :
    idsIn (f.trees o) = ("form-" ++ f.id.toString) :: f.fields.flatMap Field.controlIds := by
  rw [idsIn, gatherIn_trees ignoresPlain_ids]
  simp only [← idsIn.eq_def, (Field.idsIn_controlTrees _).1]
  rfl

theorem choiceBlocksIn_trees (o : RenderOptions) (f : Form) :
    choiceBlocksIn (f.trees o) = f.fields.flatMap fun g => choiceBlocksIn g.controlTrees := by
  rw [choiceBlocksIn, gatherIn_trees ignoresPlain_choiceBlocks]
  rfl

/-- The identifier of a box has an underscore, and that of the form's element has none. -/
theorem choiceKey_ne_ownId (f : Form) (g : Field) (c : Choice) : g.choiceKey c ≠ "form-" ++ f.id.toString := by
  intro heq
  have hunderscore : '_' ∈ (g.choiceKey c).toList := by simp [Field.choiceKey]
  rw [heq, String.toList_append, List.mem_append] at hunderscore
  rcases hunderscore with hmem | hmem
  · exact absurd hmem (by decide)
  · exact f.id.forall_mem_toString (P := (· ≠ '_')) (by decide) (by decide) _ hmem rfl

/-- Where all identifiers of controls differ, that of a box belongs to no other element of the page. -/
theorem count_idsIn_trees (o : RenderOptions) {f : Form} (hnodup : (f.fields.flatMap Field.controlIds).Nodup) {g : Field}
    (hg : g ∈ f.fields) {c : Choice} (hc : c ∈ g.boxes) : (idsIn (f.trees o)).count (g.choiceKey c) = 1 := by
  have hmem : g.choiceKey c ∈ f.fields.flatMap Field.controlIds :=
    List.mem_flatMap.2 ⟨g, hg, Field.mem_controlIds.2 (Or.inr ⟨c, hc, rfl⟩)⟩
  rw [idsIn_trees, List.count_cons_of_ne (f.choiceKey_ne_ownId g c).symm]
  exact List.count_eq_one_of_mem hnodup hmem

/-- The blocks of choices are those of the boxes of the fields, in order, each with a label for the box beside it. -/
theorem forall₂_choiceBlocksIn_trees (o : RenderOptions) (f : Form) :
    List.Forall₂ IsLabelledBox (f.fields.flatMap fun g => g.boxes.map g.choiceKey) (choiceBlocksIn (f.trees o)) := by
  rw [choiceBlocksIn_trees]
  induction f.fields with
  | nil => exact .nil
  | cons g gs ih =>
    rw [List.flatMap_cons, List.flatMap_cons]
    exact List.rel_append g.forall₂_choiceBlocksIn_controlTrees ih

variable {o : RenderOptions}

/-- Let the names of the fields differ, and the values of the choices of each field. The elements that are printed for the form, which
escaped markup is read as, carry controls with identifiers. These all differ exactly when no two fields meet; and then each choice has
a block with its box and its label, in order, and the label names the box and no other element. -/
theorem render_controlIds (o : RenderOptions) (f : Form) (hnames : (f.fields.map (·.name)).Nodup)
    (hvalues : ∀ g ∈ f.fields, (g.choices.map (·.value)).Nodup) :
    ∃ ts, treesOf (f.elements o) = ts ∧
      (o.escape = true → ∃ rs, read? (f.render o).toList = some rs ∧ withoutLayoutIn true rs = ts) ∧
      ((controlIdsIn ts).Nodup ↔ ∀ g ∈ f.fields, ∀ h ∈ f.fields, ¬g.Meets h) ∧
      ((∀ g ∈ f.fields, ∀ h ∈ f.fields, ¬g.Meets h) → List.Forall₂ (fun key children => IsLabelledBox key children ∧
        (idsIn ts).count key = 1) (f.fields.flatMap fun g => g.boxes.map g.choiceKey) (choiceBlocksIn ts)) := by
  have hmeet := Field.nodup_flatMap_controlIds_iff hnames hvalues
  refine ⟨f.trees o, f.treesOf_elements o, fun ho => ?_, ?_, fun hapart => ?_⟩
  · obtain ⟨rs, hread, hrs⟩ := exists_read?_render ho f
    exact ⟨rs, hread, hrs.trans (f.treesOf_elements o)⟩
  · rw [controlIdsIn_trees]
    exact hmeet
  · have hblocks := f.forall₂_choiceBlocksIn_trees o
    rw [List.forall₂_iff_get] at hblocks ⊢
    refine ⟨hblocks.1, fun i hi hi' => ⟨hblocks.2 i hi hi', ?_⟩⟩
    obtain ⟨g, hg, hkey⟩ := List.mem_flatMap.1 (List.get_mem _ ⟨i, hi⟩)
    obtain ⟨c, hc, hkey⟩ := List.mem_map.1 hkey
    rw [← hkey]
    exact count_idsIn_trees o (hmeet.2 hapart) hg hc

/-- A radio field and a field whose name continues that of the radio field, but not by a value of it. -/
theorem render_controlIds_continued_name :
    let f : Form := { containers := [{ fields := [
      { kind := .radio, name := "size", choices := [⟨"m", "M"⟩, ⟨"l", "L"⟩] }, { name := "size_note" }] }] }
    (f.fields.map (·.name)).Nodup ∧ (∀ g ∈ f.fields, (g.choices.map (·.value)).Nodup) ∧
      ∃ rs, read? (f.render {}).toList = some rs ∧ (controlIdsIn (withoutLayoutIn true rs)).Nodup ∧
        (choiceBlocksIn (withoutLayoutIn true rs)).length = 2 := by
  intro f
  have hnames : (f.fields.map (·.name)).Nodup := by decide
  have hvalues : ∀ g ∈ f.fields, (g.choices.map (·.value)).Nodup := by decide
  have hapart := (Field.nodup_flatMap_controlIds_iff hnames hvalues).1 (by decide +kernel)
  obtain ⟨ts, -, hread, hnodup, hblocks⟩ := render_controlIds {} f hnames hvalues
  obtain ⟨rs, hrs, rfl⟩ := hread rfl
  exact ⟨hnames, hvalues, rs, hrs, hnodup.2 hapart, (hblocks hapart).length_eq.symm⟩

/-- Fields with names of their own may meet: the box of the radio field and the other control have one identifier. -/
theorem nodup_controlIds_of_nodup_names_false :
    let f : Form := { containers := [{ fields := [{ kind := .radio, name := "a", choices := [⟨"b", "B"⟩] }, { name := "a_b" }] }] }
    (f.fields.map (·.name)).Nodup ∧ (∀ g ∈ f.fields, g.name ≠ "") ∧ (∀ g ∈ f.fields, (g.choices.map (·.value)).Nodup) ∧
      ∃ rs, read? (f.render {}).toList = some rs ∧ controlIdsIn (withoutLayoutIn true rs) = ["a_b", "a_b"] ∧
        ¬(controlIdsIn (withoutLayoutIn true rs)).Nodup := by
  intro f
  obtain ⟨rs, hread, htrees⟩ := exists_read?_render (o := {}) rfl f
  have hids : controlIdsIn (withoutLayoutIn true rs) = ["a_b", "a_b"] := by
    rw [htrees, f.treesOf_elements, controlIdsIn_trees]
    decide +kernel
  refine ⟨by decide, by decide, by decide, rs, hread, hids, ?_⟩
  rw [hids]
  decide

end Form

end Webform
