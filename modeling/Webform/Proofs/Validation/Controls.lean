import Mathlib.Data.List.Forall2
import Webform.Proofs.Markup.ReadBack
import Webform.Proofs.Validation.Decision

/-!
# What controls promise

A control tells beforehand part of what its field is validated by: that there has to be a value, and how long a text has to be and
may be. The markup and the validation go through the kinds of fields in ways of their own. They agree all the same
(`Form.render_agrees`): a submission that is accepted keeps what the controls tell, and a bound that can turn a submission down is
told, with its number. The controls are looked for in the markup as it is read, by the attribute that marks the group of a field.
-/

namespace Webform

open Markup

/-! ## Controls in markup -/

namespace Markup

mutual

/-- The attributes of an element and of all elements in it. -/
def Tree.allAttributes : Tree → List Attribute
  | .text _ => []
  | .element _ as children => as ++ attributesIn children

def attributesIn : List Tree → List Attribute
  | [] => []
  | t :: ts => t.allAttributes ++ attributesIn ts

end

mutual

/-- What the groups of fields hold, in order; a group is marked with the identifier of its field. -/
def Tree.groups : Tree → List (List Tree)
  | .text _ => []
  | .element _ as children => if as.any (·.name = "data-field-id") then [children] else groupsIn children

def groupsIn : List Tree → List (List Tree)
  | [] => []
  | t :: ts => t.groups ++ groupsIn ts

end

/-- Whether a tree in a group belongs to the control and is neither the label nor the tooltip. -/
def Tree.isControl : Tree → Bool
  | .text _ => false
  | .element name _ _ => name ≠ "label" ∧ name ≠ "small"

/-- The control in each group of a field. -/
def controlsIn (ts : List Tree) : List (List Tree) := (groupsIn ts).map (·.filter Tree.isControl)

theorem attributesIn_map {α : Type} (tree : α → Tree) (as : List α) :
    attributesIn (as.map tree) = as.flatMap fun a => (tree a).allAttributes := by
  induction as with
  | nil => rfl
  | cons a as ih => rw [List.map_cons, attributesIn, ih, List.flatMap_cons]

theorem groupsIn_append (ts us : List Tree) : groupsIn (ts ++ us) = groupsIn ts ++ groupsIn us := by
  induction ts with
  | nil => rfl
  | cons t ts ih => rw [List.cons_append, groupsIn, groupsIn, ih, List.append_assoc]

theorem groupsIn_map {α : Type} (tree : α → Tree) (as : List α) : groupsIn (as.map tree) = as.flatMap fun a => (tree a).groups := by
  induction as with
  | nil => rfl
  | cons a as ih => rw [List.map_cons, groupsIn, ih, List.flatMap_cons]

end Markup

/-! ## The groups of a form -/

theorem groupsIn_textElements (name : String) {as : List Attribute} (text : String)
    (h : as.any (·.name = "data-field-id") = false) : groupsIn (textElements name as text) = [] := by
  unfold textElements
  split
  · rfl
  · simp [groupsIn, Tree.groups, h]

theorem any_declaredAttribute (settings : List Setting) (css : Option String) :
    (declaredAttribute settings css).any (·.name = "data-field-id") = false := by
  unfold declaredAttribute
  split <;> rfl

namespace Field

theorem isControl_of_mem_controlTrees {f : Field} {t : Tree} (h : t ∈ f.controlTrees) : t.isControl = true := by
  unfold controlTrees at h
  split at h
  case h_6 | h_7 =>
    obtain ⟨c, -, rfl⟩ := List.mem_map.1 h
    rfl
  case h_8 => exact absurd h List.not_mem_nil
  all_goals
    rw [List.mem_singleton.1 h]
    rfl

/-- The group of a field holds its control, besides the label and the tooltip. -/
theorem controlsIn_tree (f : Field) : f.tree.groups.map (·.filter Tree.isControl) = [f.controlTrees] := by
  have htext : ∀ (name : String) (as : List Attribute) (text : String), name = "label" ∨ name = "small" →
      (textElements name as text).filter Tree.isControl = [] := by
    intro name as text hname
    unfold textElements
    split
    · rfl
    · rcases hname with rfl | rfl <;> rfl
  have hmarked : f.tree.groups = [textElements "label" [.of "for" f.name, .of "class" "form-label"] f.label ++ f.controlTrees ++
      textElements "small" [.of "class" "form-text text-muted"] f.tooltip] := by
    rw [tree, Tree.groups]
    simp [Attribute.of]
  rw [hmarked, List.map_singleton, List.filter_append, List.filter_append, htext _ _ _ (.inl rfl), htext _ _ _ (.inr rfl),
    List.filter_eq_self.2 fun t ht => isControl_of_mem_controlTrees ht]
  simp

end Field

theorem Container.groups_tree (semantic : Bool) (c : Container) : (c.tree semantic).groups = c.fields.flatMap (·.tree.groups) := by
  rw [tree, Tree.groups, List.any_cons, any_declaredAttribute, groupsIn_map]
  rfl

namespace Form

theorem groupsIn_bodyElements (name : String) (text : Option String) : groupsIn (bodyElements name text) = [] := by
  cases text with
  | none => rfl
  | some t =>
    unfold bodyElements
    simp only
    split <;> rfl

theorem groupsIn_fragmentTrees (semantic : Bool) (f : Form) :
    groupsIn (f.fragmentTrees semantic) = f.fields.flatMap (·.tree.groups) := by
  have hform : ([.of "id" ("form-" ++ f.id.toString), .of "class" "dynamic-form"] : List Attribute).any
      (·.name = "data-field-id") = false := rfl
  rw [fragmentTrees, groupsIn, groupsIn_append, groupsIn_bodyElements, groupsIn_bodyElements, Tree.groups,
    if_neg (by simp [hform]), groupsIn_map, fields, List.flatMap_assoc]
  simp [Container.groups_tree]

theorem groupsIn_trees (o : RenderOptions) (f : Form) : groupsIn (f.trees o) = f.fields.flatMap (·.tree.groups) := by
  unfold trees
  split
  · have htitle := @groupsIn_textElements "title" [] f.title rfl
    simp [htitle, pageTree, groupsIn, Tree.groups, groupsIn_append, groupsIn_textElements, groupsIn_bodyElements,
      groupsIn_fragmentTrees, Attribute.of]
  · exact f.groupsIn_fragmentTrees o.semantic

/-- There is one control for each field of the form's own containers, in order. -/
theorem controlsIn_trees (o : RenderOptions) (f : Form) : controlsIn (f.trees o) = f.fields.map Field.controlTrees := by
  rw [controlsIn, groupsIn_trees, List.map_flatMap]
  simp only [Field.controlsIn_tree]
  exact List.map_eq_flatMap.symm

end Form

/-! ## Bounds on the length -/

/-- The two bounds on the length of a text. -/
inductive LengthBound where
  | least
  | largest
deriving DecidableEq, Repr

namespace LengthBound

/-- The attribute by which a control tells the bound. -/
def attributeName : LengthBound → String
  | least => "minlength"
  | largest => "maxlength"

/-- The bound that the rules set, if any. -/
def value? (r : Rules) : LengthBound → Option UInt64
  | least => r.minLength
  | largest => r.maxLength

/-- The rules without all but the bound. -/
def alone (r : Rules) : LengthBound → Rules
  | least => { minLength := r.minLength }
  | largest => { maxLength := r.maxLength }

/-- Whether a length keeps to the bound. -/
def Keeps (n length : Nat) : LengthBound → Prop
  | least => n ≤ length
  | largest => length ≤ n

instance (n length : Nat) : (b : LengthBound) → Decidable (b.Keeps n length)
  | least => inferInstanceAs (Decidable (n ≤ length))
  | largest => inferInstanceAs (Decidable (length ≤ n))

theorem alone_allows_iff (r : Rules) (b : LengthBound) (t : String) :
    (b.alone r).Allows t ↔ ∀ n, b.value? r = some n → b.Keeps n.toNat t.length := by
  cases b with
  | least => exact ⟨fun h => h.long, fun h => ⟨h, by simp [alone], by simp [alone]⟩⟩
  | largest => exact ⟨fun h => h.short, fun h => ⟨by simp [alone], h, by simp [alone]⟩⟩

theorem keeps_of_allows {r : Rules} {t : String} (h : r.Allows t) {b : LengthBound} {n : UInt64} (hn : b.value? r = some n) :
    b.Keeps n.toNat t.length := by
  cases b with
  | least => exact h.long n hn
  | largest => exact h.short n hn

end LengthBound

/-- A form that asks for the field only. -/
def Field.loneForm (f : Field) : Form := { containers := [{ fields := [f] }] }

theorem Field.validate_loneForm_success_iff (f : Field) (s : Submission) :
    (f.loneForm.validate true s).success = true ↔ f.Satisfied true s := by
  rw [Form.validate_success_iff, Form.errors_eq_nil_iff]
  simp [loneForm]

/-- Whether a bound on the length can turn a submission down: it does so where nothing else is asked for. -/
def Field.Restricts (f : Field) (b : LengthBound) : Prop :=
  ∃ s, (({ f with isRequired := false, rules := b.alone f.rules } : Field).loneForm.validate true s).success = false

/-- A bound can turn a submission down exactly if it is set, the field takes free text, and some text does not keep to the bound. -/
theorem Field.restricts_iff (f : Field) (b : LengthBound) :
    f.Restricts b ↔
      f.kind.isTextual = true ∧ ∃ n, b.value? f.rules = some n ∧ ∃ v t, TextForm v t ∧ ¬b.Keeps n.toNat t.length := by
  constructor
  · rintro ⟨s, hs⟩
    by_cases hbroken : f.kind.isTextual = true ∧ ∃ n, b.value? f.rules = some n ∧ ∃ v t, TextForm v t ∧ ¬b.Keeps n.toNat t.length
    · exact hbroken
    · have hsatisfied : Field.Satisfied true { f with isRequired := false, rules := b.alone f.rules } s := by
        refine ⟨fun h => absurd h Bool.false_ne_true, fun _ hkind v t _ ht => ?_⟩
        rw [LengthBound.alone_allows_iff]
        intro n hn
        by_cases hkeeps : b.Keeps n.toNat t.length
        · exact hkeeps
        · exact absurd ⟨(ControlKind.isTextual_iff f.kind).2 hkind, n, hn, v, t, ht, hkeeps⟩ hbroken
      rw [(validate_loneForm_success_iff _ s).2 hsatisfied] at hs
      cases hs
  · rintro ⟨hkind, n, hn, v, t, ht, hbroken⟩
    refine ⟨.ofList [(f.name, v)], ?_⟩
    rw [← Bool.not_eq_true, validate_loneForm_success_iff]
    intro hsatisfied
    have hget : (Submission.ofList [(f.name, v)]).get? f.name = some v := by
      simp [Submission.get?, Submission.ofList, Submission.insert, Submission.empty, Json.Object.insert, Json.Members.insert,
        Json.Members.get?]
    have hallows := hsatisfied.allowed rfl ((ControlKind.isTextual_iff f.kind).1 hkind) v t hget ht
    exact hbroken ((LengthBound.alone_allows_iff f.rules b t).1 hallows n hn)

/-! ## What a control tells -/

namespace Markup

/-- The attributes that have the name. -/
def withName (name : String) (as : List Attribute) : List Attribute := as.filter (·.name = name)

variable {told : String}

@[simp] theorem withName_nil : withName told [] = [] := rfl

@[simp] theorem withName_append (as bs : List Attribute) : withName told (as ++ bs) = withName told as ++ withName told bs :=
  List.filter_append as bs

@[simp] theorem withName_cons (name value : String) (as : List Attribute) :
    withName told (.of name value :: as) = if name = told then .of name value :: withName told as else withName told as := by
  by_cases h : name = told <;> simp [withName, Attribute.of, h]

theorem withName_flatMap {α : Type} (attributes : α → List Attribute) (as : List α) :
    withName told (as.flatMap attributes) = as.flatMap fun a => withName told (attributes a) := List.filter_flatMap

@[simp] theorem withName_flagAttribute (condition : Bool) (name : String) :
    withName told (flagAttribute condition name) = if name = told then flagAttribute condition name else [] := by
  unfold flagAttribute
  split <;> split <;> simp_all [withName]

@[simp] theorem attributesIn_textTree (text : String) : attributesIn (textTree text) = [] := by
  unfold textTree
  split <;> rfl

end Markup

@[simp] theorem withName_settingAttribute (told name : String) (setting : Option String) :
    withName told (settingAttribute name setting) = if name = told then settingAttribute name setting else [] := by
  unfold settingAttribute
  split
  · split <;> simp
  · simp

namespace Field

/-- A control tells a bound exactly if its field takes free text and sets the bound. -/
theorem withName_bound (f : Field) (b : LengthBound) :
    withName b.attributeName (attributesIn f.controlTrees) =
      if f.kind.isTextual then settingAttribute b.attributeName ((b.value? f.rules).map fun n => toString n.toNat) else [] := by
  unfold controlTrees
  cases f.kind <;> cases b <;>
    simp [attributesIn, Tree.allAttributes, inputTree, textRules, lengthRules, LengthBound.attributeName,
      LengthBound.value?, ControlKind.isTextual, attributesIn_map, withName_flatMap, choiceTree, textElement]

/-- A control that tells that a value is required is that of a required field. -/
theorem withName_required {f : Field} (h : f.isRequired = false) : withName "required" (attributesIn f.controlTrees) = [] := by
  have hflag : flagAttribute false "required" = [] := rfl
  unfold controlTrees
  cases f.kind <;>
    simp [h, hflag, attributesIn, Tree.allAttributes, inputTree, textRules, lengthRules, attributesIn_map,
      withName_flatMap, choiceTree, textElement]

end Field

/-! ## Agreement -/

/-- What the control of a field tells of the field is what submissions to the form are validated by. -/
structure Form.Agrees (f : Form) (g : Field) (control : List Tree) : Prop where
  /-- Where a control tells that a value is required, an accepted submission provides one. -/
  required : (∃ a ∈ attributesIn control, a.name = "required") → ∀ s, (f.validate true s).success = true → s.Provides g.name
  /-- Where a control tells a bound, the text that an accepted submission has for the field keeps to it. -/
  bounded : ∀ (b : LengthBound) (n : Nat), .of b.attributeName (toString n) ∈ attributesIn control →
    ∀ s, (f.validate true s).success = true → ∀ v t, s.get? g.name = some v → TextForm v t → b.Keeps n t.length
  /-- A bound that can turn a submission down is told, once and with its number. -/
  told : ∀ b : LengthBound, g.Restricts b →
    ∃ n, b.value? g.rules = some n ∧ withName b.attributeName (attributesIn control) = [.of b.attributeName (toString n.toNat)]

theorem toString_nat_inj {m n : Nat} (h : toString m = toString n) : m = n := by
  have hread : ∀ n : Nat, Nat.ofDigitChars 10 (toString n).toList 0 = n := by
    intro n
    show Nat.ofDigitChars 10 (Nat.repr n).toList 0 = n
    rw [Nat.repr_eq_ofList_toDigits, String.toList_ofList, Nat.ofDigitChars_ten_toDigits]
  rw [← hread m, h, hread]

namespace Form

/-- The control of any one field of a form. -/
theorem agrees_controlTrees {f : Form} {g : Field} (hg : g ∈ f.fields) : f.Agrees g g.controlTrees := by
  have hsatisfied : ∀ s, (f.validate true s).success = true → g.Satisfied true s := by
    intro s hs
    obtain ⟨c, hc, hg⟩ := mem_fields.1 hg
    exact (f.errors_eq_nil_iff true s).1 ((f.validate_success_iff true s).1 hs) c hc g hg
  refine ⟨?_, ?_, ?_⟩
  · rintro ⟨a, ha, hname⟩ s hs
    refine (hsatisfied s hs).provided ?_
    cases hrequired : g.isRequired with
    | true => rfl
    | false =>
      have hmem : a ∈ withName "required" (attributesIn g.controlTrees) := List.mem_filter.2 ⟨ha, by simpa using hname⟩
      rw [Field.withName_required hrequired] at hmem
      exact absurd hmem List.not_mem_nil
  · intro b n ha s hs v t hv ht
    have hmem : .of b.attributeName (toString n) ∈ withName b.attributeName (attributesIn g.controlTrees) :=
      List.mem_filter.2 ⟨ha, by simp [Attribute.of]⟩
    rw [g.withName_bound b] at hmem
    split at hmem
    · rename_i hkind
      cases hvalue : b.value? g.rules with
      | none => simp [hvalue, settingAttribute] at hmem
      | some m =>
        have hnumber : n = m.toNat := toString_nat_inj (by simpa [hvalue, settingAttribute, Attribute.of] using hmem)
        rw [hnumber]
        exact LengthBound.keeps_of_allows
          ((hsatisfied s hs).allowed rfl ((ControlKind.isTextual_iff g.kind).1 hkind) v t hv ht) hvalue
    · exact absurd hmem List.not_mem_nil
  · intro b hb
    obtain ⟨hkind, n, hn, -⟩ := (g.restricts_iff b).1 hb
    refine ⟨n, hn, ?_⟩
    rw [g.withName_bound b, if_pos hkind, hn]
    simp [settingAttribute]

variable {o : RenderOptions}

/-- The markup of a form has one control for each field of the form's own containers, in order, and each agrees with the
validation of the form. -/
theorem render_agrees (ho : o.escape = true) (f : Form) :
    ∃ ts, read? (f.render o).toList = some ts ∧
      List.Forall₂ f.Agrees (f.containers.flatMap (·.fields)) (controlsIn (withoutLayoutIn true ts)) := by
  obtain ⟨ts, hread, htrees⟩ := exists_read?_render ho f
  refine ⟨ts, hread, ?_⟩
  rw [htrees, f.treesOf_elements, f.controlsIn_trees, fields, List.forall₂_map_right_iff, List.forall₂_same]
  exact fun g hg => f.agrees_controlTrees hg

/-- A field that asks for two to four characters: a submission that is accepted, and the bound that is told. -/
theorem render_agrees_two_to_four :
    let g : Field := { name := "code", isRequired := true, rules := { minLength := some 2, maxLength := some 4 } }
    let f : Form := { containers := [{ fields := [g] }] }
    let o : RenderOptions := {}
    o.escape = true ∧ (f.validate true (.ofList [("code", .string "abc")])).success = true ∧ g.Restricts .least ∧
      ∃ ts control, read? (f.render o).toList = some ts ∧ controlsIn (withoutLayoutIn true ts) = [control] ∧
        withName "minlength" (attributesIn control) = [.of "minlength" "2"] := by
  intro g f o
  have hrestricts : g.Restricts .least :=
    (g.restricts_iff .least).2 ⟨rfl, 2, rfl, .string "a", "a", .string "a" ⟨'a', by decide, rfl⟩, by decide⟩
  obtain ⟨ts, hread, hagrees⟩ := render_agrees (o := o) rfl f
  obtain ⟨control, controls, hcontrol, hrest, hcontrols⟩ := List.forall₂_cons_left_iff.1 hagrees
  rw [List.forall₂_nil_left_iff.1 hrest] at hcontrols
  obtain ⟨n, hn, htold⟩ := hcontrol.told .least hrestricts
  obtain rfl : n = 2 := (Option.some.inj hn).symm
  exact ⟨rfl, rfl, hrestricts, ts, control, hread, hcontrols, htold⟩

end Form

end Webform
