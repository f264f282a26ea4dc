import Webform.Proofs.Form.RoundTrip
import Webform.Proofs.Json.Yields

/-!
# Documents made normal

A document may use old names and leave members out, repeat them or set a record as a list; its form is one that is read back from
what is written of it. What makes it so is that every field comes out of its reader settled, with logic that nests no deeper than
its place in the document allowed (`Field.AsRead`), and that a form is written with its fields at the places they were read from.
-/

namespace Webform

open Json Codec

/-! ## What is read of a document -/

/-- A field as it is read: it is settled, the keys of its logic are distinct, and the logic opens at most `deep` brackets. -/
structure Field.AsRead (deep : Nat) (g : Field) : Prop where
  settled : g.Settled
  keyed : ∀ v, g.logic = some v → v.Keyed
  shallow : ∀ v, g.logic = some v → v.depth ≤ deep

/-- Only the kind and the logic of a field matter. -/
theorem Field.AsRead.congr {deep : Nat} {g h : Field} (hg : g.AsRead deep) (hkind : h.kind = g.kind) (hlogic : h.logic = g.logic) :
    h.AsRead deep where
  settled := ⟨hlogic ▸ hg.settled.1, hkind ▸ hg.settled.2⟩
  keyed := hlogic ▸ hg.keyed
  shallow := hlogic ▸ hg.shallow

theorem ControlKind.eq_of_ofTag_eq_unknown {tag t : String} (h : ofTag tag = unknown t) : t = tag := by
  unfold ofTag at h
  split at h <;> cases h
  rfl

/-- Looking a tag up once more makes no difference. -/
theorem ControlKind.reread_ofTag (tag : String) : (ofTag tag).reread = ofTag tag := by
  cases h : ofTag tag with
  | unknown t =>
    have ht := eq_of_ofTag_eq_unknown h
    subst ht
    exact h
  | _ => rfl

theorem ControlKind.yields : Yields codec.read fun _ k => k.reread = k := by
  intro lim cs k rest h
  obtain ⟨tag, -, rfl⟩ := Scan.as_eq_ok_iff.1 h
  exact reread_ofTag tag

theorem Field.yields : Yields record.codec.read fun d g => g.AsRead (d - 1) := by
  have hstart : ∀ d, record.start.AsRead d := fun d => ⟨⟨nofun, nofun⟩, nofun, nofun⟩
  refine Record.yields (I := AsRead) hstart ?_
  simp only [record, optionalText, List.forall_mem_cons]
  refine ⟨.other ?_, .of ControlKind.yields ?_, .other ?_, .other ?_, .other ?_, .other ?_, .other ?_, .other ?_, .other ?_,
    .other ?_, .other ?_, .of yields_optional_value ?_, nofun⟩
  case refine_2 =>
    intro d g k hg hk
    exact ⟨⟨hg.settled.1, (ControlKind.reread_eq_iff k).1 hk⟩, hg.keyed, hg.shallow⟩
  case refine_12 =>
    intro d g logic hg hlogic
    exact ⟨⟨fun hnull => (hlogic _ hnull).1 rfl, hg.settled.2⟩, fun v hv => (hlogic v hv).2.1, fun v hv => (hlogic v hv).2.2⟩
  all_goals exact fun d g x hg => hg.congr rfl rfl

/-- All fields of the container are as they are read. -/
def Container.AsRead (deep : Nat) (c : Container) : Prop := ∀ g ∈ c.fields, g.AsRead deep

theorem Container.yields : Yields record.codec.read fun d c => c.AsRead (d - 3) := by
  have hstart : ∀ d, record.start.AsRead (d - 2) := fun d => List.forall_mem_nil _
  refine Record.yields (I := fun d (c : Container) => c.AsRead (d - 2)) hstart ?_
  simp only [record, List.forall_mem_cons]
  exact ⟨.other fun d c x hc => hc, .other fun d c x hc => hc, .of Field.yields.list fun d c fields _ hfields => hfields,
    .other fun d c x hc => hc, nofun⟩

/-- All fields of the step's containers are as they are read. -/
def Step.AsRead (deep : Nat) (s : Step) : Prop := ∀ c ∈ s.containers, c.AsRead deep

theorem Step.yields : Yields record.codec.read fun d s => s.AsRead (d - 5) := by
  have hstart : ∀ d, record.start.AsRead (d - 4) := fun d => List.forall_mem_nil _
  refine Record.yields (I := fun d (s : Step) => s.AsRead (d - 4)) hstart ?_
  simp only [record, List.forall_mem_cons]
  exact ⟨.other fun d s x hs => hs, .other fun d s x hs => hs, .of Container.yields.list fun d s cs _ hcs => hcs, nofun⟩

/-- All fields of a form are as they are read; those that its steps list stand two brackets further in than its own. -/
structure Form.AsRead (deep : Nat) (f : Form) : Prop where
  own : ∀ c ∈ f.containers, c.AsRead (deep - 4)
  steps : ∀ s ∈ f.steps, s.AsRead (deep - 6)

theorem Form.yields : Yields record.codec.read fun d f => f.AsRead (d - 1) := by
  have hstart : ∀ d, record.start.AsRead d := fun d => ⟨List.forall_mem_nil _, List.forall_mem_nil _⟩
  refine Record.yields (I := AsRead) hstart ?_
  simp only [record, optionalText, List.forall_mem_cons]
  refine ⟨.other ?_, .other ?_, .other ?_, .of Container.yields.list ?_, .other ?_, .of Step.yields.list ?_, .other ?_, .other ?_,
    nofun⟩
  case refine_4 => exact fun d f cs hf hcs => ⟨hcs, hf.steps⟩
  case refine_6 => exact fun d f ss hf hss => ⟨hf.own, hss⟩
  all_goals exact fun d f x hf => ⟨hf.own, hf.steps⟩

/-! ## How deep documents nest -/

theorem FlexLayout.depth_write_le (l : FlexLayout) : (record.codec.write l).depth ≤ 1 := Nat.le_refl 1

theorem GridLayout.depth_write_le (l : GridLayout) : (record.codec.write l).depth ≤ 1 := by
  refine Record.depth_write_le ?_
  simp only [record, List.forall_mem_cons]
  exact ⟨.of (Nat.zero_le 0), .of (Nat.zero_le 0), .of (Nat.zero_le 0), .optionalText 0 l, .optionalText 0 l, nofun⟩

theorem ContainerStyle.depth_write_le (s : ContainerStyle) : (record.codec.write s).depth ≤ 2 := by
  refine Record.depth_write_le ?_
  simp only [record, List.forall_mem_cons]
  exact ⟨.of (Nat.zero_le 1), .of s.flex.depth_write_le, .of s.grid.depth_write_le, .optionalText 1 s, .optionalText 1 s,
    .optionalText 1 s, .optionalText 1 s, .optionalText 1 s, nofun⟩

theorem FieldStyle.depth_write_le (s : FieldStyle) : (record.codec.write s).depth ≤ 1 := by
  refine Record.depth_write_le ?_
  simp only [record, List.forall_mem_cons]
  exact ⟨.optionalText 0 s, .optionalText 0 s, .optionalText 0 s, .optionalText 0 s, .optionalText 0 s, .optionalText 0 s,
    .optionalText 0 s, .optionalText 0 s, nofun⟩

theorem Rules.depth_write_le (r : Rules) : (record.codec.write r).depth ≤ 1 := by
  refine Record.depth_write_le ?_
  simp only [record, List.forall_mem_cons]
  exact ⟨.of (depth_write_optional_le fun _ _ => Nat.le_refl 0), .of (depth_write_optional_le fun _ _ => Nat.le_refl 0),
    .optionalText 0 r, .optionalText 0 r, nofun⟩

theorem Choice.depth_write_le (c : Choice) : (record.codec.write c).depth ≤ 1 := Nat.le_refl 1

/-- The logic of a field nests deeper than the rest of it, or the choices do. -/
theorem Field.AsRead.depth_write_le {deep : Nat} {g : Field} (h : g.AsRead deep) (hdeep : 2 ≤ deep) :
    (Field.record.codec.write g).depth ≤ deep + 1 := by
  refine Record.depth_write_le ?_
  have hchoices : ((list Choice.record.codec).write g.choices).depth ≤ deep :=
    Nat.le_trans (depth_write_list_le fun c _ => c.depth_write_le) hdeep
  have hlogic : ((optional value).write g.logic).depth ≤ deep := depth_write_optional_le h.shallow
  have hrules : (Rules.record.codec.write g.rules).depth ≤ deep := Nat.le_trans g.rules.depth_write_le (Nat.le_of_succ_le hdeep)
  have hstyle : (FieldStyle.record.codec.write g.style).depth ≤ deep :=
    Nat.le_trans g.style.depth_write_le (Nat.le_of_succ_le hdeep)
  simp only [Field.record, List.forall_mem_cons]
  exact ⟨.of (Nat.zero_le _), .of (Nat.zero_le _), .of (Nat.zero_le _), .of (Nat.zero_le _), .of (Nat.zero_le _),
    .of (Nat.zero_le _), .optionalText _ _, .of (Nat.zero_le _), .of hrules, .of hstyle, .of hchoices, .of hlogic, nofun⟩

theorem Container.AsRead.depth_write_le {deep : Nat} {c : Container} (h : c.AsRead deep) (hdeep : 2 ≤ deep) :
    (Container.record.codec.write c).depth ≤ deep + 3 := by
  refine Record.depth_write_le ?_
  have hfields : ((list Field.record.codec).write c.fields).depth ≤ deep + 2 :=
    depth_write_list_le fun g hg => (h g hg).depth_write_le hdeep
  have hstyle : (ContainerStyle.record.codec.write c.style).depth ≤ deep + 2 :=
    Nat.le_trans c.style.depth_write_le (Nat.le_add_left 2 deep)
  simp only [Container.record, List.forall_mem_cons]
  exact ⟨.of (Nat.zero_le _), .of (Nat.zero_le _), .of hfields, .of hstyle, nofun⟩

theorem Step.AsRead.depth_write_le {deep : Nat} {s : Step} (h : s.AsRead deep) (hdeep : 2 ≤ deep) :
    (Step.record.codec.write s).depth ≤ deep + 5 := by
  refine Record.depth_write_le ?_
  have hcontainers : ((list Container.record.codec).write s.containers).depth ≤ deep + 4 :=
    depth_write_list_le fun c hc => (h c hc).depth_write_le hdeep
  simp only [Step.record, List.forall_mem_cons]
  exact ⟨.of (Nat.zero_le _), .of (Nat.zero_le _), .of hcontainers, nofun⟩

/-- A form is written as deep as it may be read, if that is deep enough for a form without logic. -/
theorem Form.AsRead.depth_write_le {deep : Nat} {f : Form} (h : f.AsRead deep) (hdeep : 8 ≤ deep) :
    (Form.record.codec.write f).depth ≤ deep + 1 := by
  refine Record.depth_write_le ?_
  have hcontainers : ((list Container.record.codec).write f.containers).depth ≤ deep := by
    have hown := depth_write_list_le fun c hc => (h.own c hc).depth_write_le (by omega)
    omega
  have hsteps : ((list Step.record.codec).write f.steps).depth ≤ deep := by
    have hlisted := depth_write_list_le fun s hs => (h.steps s hs).depth_write_le (by omega)
    omega
  simp only [Form.record, List.forall_mem_cons]
  exact ⟨.of (Nat.zero_le _), .of (Nat.zero_le _), .of (Nat.zero_le _), .of hcontainers, .of (Nat.zero_le _), .of hsteps,
    .optionalText _ _, .optionalText _ _, nofun⟩

/-! ## One write -/

namespace Form

theorem AsRead.of_mem_everyField {deep : Nat} {f : Form} (h : f.AsRead deep) {g : Field} (hg : g ∈ f.everyField) :
    g.AsRead (deep - 4) ∨ g.AsRead (deep - 6) := by
  rcases mem_everyField.1 hg with ⟨c, hc, hg⟩ | ⟨s, hs, c, hc, hg⟩
  · exact .inl (h.own c hc g hg)
  · exact .inr (h.steps s hs c hc g hg)

/-- Whatever the text of a document was, its form has no logic of `null` and no unknown tag that is a known one in another case.
If the numbers in its logic are integers of 64 bits, the form comes back from what is written of it, and writing it once more gives
the same text. -/
theorem ofText_normalises {t : String} {f : Form} (h : ofText t = .ok f) :
    (∀ g ∈ f.everyField, g.Settled) ∧
      ((∀ g ∈ f.everyField, ∀ v, g.logic = some v → v.Integral) →
        ofText f.toText = .ok f ∧ (ofText f.toText).map toText = .ok f.toText) := by
  have hread : f.AsRead 126 := yields.ofText h
  have hsettled : ∀ g ∈ f.everyField, g.Settled := fun g hg => (hread.of_mem_everyField hg).elim (·.settled) (·.settled)
  refine ⟨hsettled, fun hintegral => ?_⟩
  have hexact : ∀ g ∈ f.everyField, ∀ v, g.logic = some v → v.Exact := by
    intro g hg v hv
    have hkeyed : v.Keyed := (hread.of_mem_everyField hg).elim (·.keyed v hv) (·.keyed v hv)
    exact hkeyed.exact (hintegral g hg v hv)
  have hback : ofText f.toText = .ok f.reread :=
    (restores hexact).ofText (hread.depth_write_le (by decide)) Layout.spaced_pretty
  rw [f.reread_eq_iff.2 hsettled] at hback
  exact ⟨hback, by rw [hback]; rfl⟩

set_option maxRecDepth 2000 in
/-- A document with an old name, a container set as a list, a tag in capitals and a key of logic that is repeated. -/
theorem ofText_normalises_old_names :
    let t := "\x7b\"containers\":[[\"0000000000000000000000000000000A\",\"Div\",[\x7b\"name\":null,\"fieldType\":\"TEXT\"," ++
      "\"conditionalLogic\":\x7b\"a\":1,\"a\":[-2]\x7d\x7d]]]\x7d"
    let f : Form := { containers := [{ id := .ofNat 10, fields := [
      { kind := .ofTag "TEXT", logic := some (.object [("a", .array [.number (.integer (-2))])]) }] }] }
    ofText t = .ok f ∧ (∀ g ∈ f.everyField, ∀ v, g.logic = some v → v.Integral) ∧ ofText f.toText = .ok f := by
  intro t f
  have hread : ofText t = .ok f := by
    simp only [t]
    rfl
  have hlogic : ∀ g ∈ f.everyField, ∀ v, g.logic = some v → v.Integral := by
    intro g hg v hv
    rw [List.mem_singleton.1 hg] at hv
    cases hv
    refine .object (List.forall_mem_singleton.2 (.array (List.forall_mem_singleton.2 (.integer ?_))))
    decide
  exact ⟨hread, hlogic, ((ofText_normalises hread).2 hlogic).1⟩

end Form

end Webform
