import Mathlib.Logic.Relation
import Webform.Proofs.Validation.Decision

/-!
# Forms that ask for less

A form is loosened by small changes, one after another: a container or a field is dropped, a field is no longer required, a bound
on the length is moved outwards or taken away, a pattern is taken away, or words are changed. None of them turns a submission down
that was accepted before (`Form.Loosening.satisfied`), so no number of them does (`Form.accepted_of_loosened`), and neither does
leaving the rules out altogether.
-/

namespace Webform

/-! ## Changes -/

/-- One change of a field, by which it asks for less or is called otherwise. -/
inductive Field.Loosening : Field → Field → Prop
  | optional (f : Field) : Loosening f { f with isRequired := false }
  /-- The least length is made smaller or taken away. -/
  | minLength (f : Field) (bound : Option UInt64) : (∀ n ∈ bound, ∃ m ∈ f.rules.minLength, n ≤ m) →
      Loosening f { f with rules := { f.rules with minLength := bound } }
  /-- The largest length is made larger or taken away. -/
  | maxLength (f : Field) (bound : Option UInt64) : (∀ n ∈ bound, ∃ m ∈ f.rules.maxLength, m ≤ n) →
      Loosening f { f with rules := { f.rules with maxLength := bound } }
  | noPattern (f : Field) : Loosening f { f with rules := { f.rules with pattern := none } }
  | label (f : Field) (label : String) : Loosening f { f with label := label }
  | errorMessage (f : Field) (message : Option String) :
      Loosening f { f with rules := { f.rules with errorMessage := message } }

/-- One change of a list: a member is dropped, or changed in the given way. -/
inductive ChangedOnce {α : Type} (change : α → α → Prop) : List α → List α → Prop
  | drop (as bs : List α) (a : α) : ChangedOnce change (as ++ a :: bs) (as ++ bs)
  | change (as bs : List α) {a b : α} : change a b → ChangedOnce change (as ++ a :: bs) (as ++ b :: bs)

/-- One change of a container: a field is dropped or loosened. -/
inductive Container.Loosening : Container → Container → Prop
  | fields (c : Container) {fs gs : List Field} : ChangedOnce Field.Loosening fs gs →
      Loosening { c with fields := fs } { c with fields := gs }

/-- One change of a form: a container of its own is dropped or loosened. -/
inductive Form.Loosening : Form → Form → Prop
  | containers (f : Form) {cs ds : List Container} : ChangedOnce Container.Loosening cs ds →
      Loosening { f with containers := cs } { f with containers := ds }

/-! ## What is satisfied stays satisfied -/

variable {enforce : Bool} {s : Submission}

/-- A field with other rules is satisfied as well if these allow all texts that the field's rules allow. -/
theorem Field.Satisfied.setRules {f : Field} (h : f.Satisfied enforce s) {r : Rules} (hr : ∀ t, f.rules.Allows t → r.Allows t) :
    Field.Satisfied enforce { f with rules := r } s :=
  ⟨h.provided, fun henforce hkind v t hv ht => hr t (h.allowed henforce hkind v t hv ht)⟩

/-- What satisfies a field with rules enforced satisfies it without. -/
theorem Field.Satisfied.requiredOnly {f : Field} (h : f.Satisfied true s) : f.Satisfied false s := by
  refine ⟨h.provided, ?_⟩
  intro hno
  cases hno

theorem Field.Loosening.satisfied {f g : Field} (h : f.Loosening g) (hf : f.Satisfied enforce s) : g.Satisfied enforce s := by
  cases h with
  | optional => exact ⟨fun hrequired => absurd hrequired Bool.false_ne_true, hf.allowed⟩
  | minLength bound hbound =>
    apply hf.setRules
    intro t ht
    refine ⟨?_, ht.short, ht.fits⟩
    intro n hn
    obtain ⟨m, hm, hle⟩ := hbound n hn
    exact Nat.le_trans (UInt64.le_iff_toNat_le.1 hle) (ht.long m hm)
  | maxLength bound hbound =>
    apply hf.setRules
    intro t ht
    refine ⟨ht.long, ?_, ht.fits⟩
    intro n hn
    obtain ⟨m, hm, hle⟩ := hbound n hn
    exact Nat.le_trans (ht.short m hm) (UInt64.le_iff_toNat_le.1 hle)
  | noPattern =>
    apply hf.setRules
    intro t ht
    refine ⟨ht.long, ht.short, ?_⟩
    intro p hp
    cases hp
  | label => exact ⟨hf.provided, hf.allowed⟩
  | errorMessage => exact hf.setRules fun t ht => ⟨ht.long, ht.short, ht.fits⟩

/-- What every member of a list has, every member of the changed list has, if no change of a member takes it away. -/
theorem ChangedOnce.forall_mem {α : Type} {change : α → α → Prop} {p : α → Prop} (hp : ∀ a b, change a b → p a → p b)
    {as bs : List α} (h : ChangedOnce change as bs) (has : ∀ a ∈ as, p a) : ∀ b ∈ bs, p b := by
  cases h with
  | drop as bs a =>
    simp only [List.forall_mem_append, List.forall_mem_cons] at has ⊢
    exact ⟨has.1, has.2.2⟩
  | change as bs h =>
    simp only [List.forall_mem_append, List.forall_mem_cons] at has ⊢
    exact ⟨has.1, hp _ _ h has.2.1, has.2.2⟩

theorem Container.Loosening.satisfied {c d : Container} (h : c.Loosening d) (hc : ∀ f ∈ c.fields, f.Satisfied enforce s) :
    ∀ f ∈ d.fields, f.Satisfied enforce s := by
  cases h with
  | fields c hfields => exact hfields.forall_mem (fun _ _ hfield => hfield.satisfied) hc

namespace Form

/-- One change keeps all fields satisfied. -/
theorem Loosening.satisfied {f g : Form} (h : f.Loosening g) (hf : ∀ c ∈ f.containers, ∀ a ∈ c.fields, a.Satisfied enforce s) :
    ∀ c ∈ g.containers, ∀ a ∈ c.fields, a.Satisfied enforce s := by
  cases h with
  | containers f hcontainers => exact hcontainers.forall_mem (fun _ _ hcontainer => hcontainer.satisfied) hf

/-- Any number of changes keep all fields satisfied. -/
theorem satisfied_of_loosened {f g : Form} (h : Relation.ReflTransGen Loosening f g)
    (hf : ∀ c ∈ f.containers, ∀ a ∈ c.fields, a.Satisfied enforce s) :
    ∀ c ∈ g.containers, ∀ a ∈ c.fields, a.Satisfied enforce s := by
  induction h with
  | refl => exact hf
  | tail _ h ih => exact h.satisfied ih

theorem success_iff_satisfied (enforce : Bool) (f : Form) (s : Submission) :
    (f.validate enforce s).success = true ↔ ∀ c ∈ f.containers, ∀ a ∈ c.fields, a.Satisfied enforce s :=
  (f.validate_success_iff enforce s).trans (f.errors_eq_nil_iff enforce s)

/-- What a form accepts, with rules enforced or without, a loosened form accepts too. What is accepted with rules enforced is accepted
without. -/
theorem accepted_of_loosened {f g : Form} (h : Relation.ReflTransGen Loosening f g) (s : Submission) :
    (∀ enforce, (f.validate enforce s).success = true → (g.validate enforce s).success = true) ∧
      ((f.validate true s).success = true → (f.validate false s).success = true) := by
  simp only [success_iff_satisfied]
  constructor
  · intro enforce
    exact satisfied_of_loosened h
  · intro hf c hc a ha
    exact (hf c hc a ha).requiredOnly

/-- A form with two required fields and a further container. The container and one of the fields are dropped; the other field loses its
pattern, need not be filled in and takes shorter texts, and has a message of its own then. -/
theorem accepted_of_loosened_one_field :
    let a : Field := { name := "a", label := "A", isRequired := true, rules := { minLength := some 3, pattern := some "[a-z]+" } }
    let b : Field := { name := "b", isRequired := true }
    let f : Form := { containers := [{ fields := [b, a] }, { fields := [{ name := "c", rules := { maxLength := some 1 } }] }] }
    let g : Form := { containers := [{ fields := [{ name := "a", rules := { minLength := some 2, errorMessage := some "short" } }] }] }
    let s : Submission := .ofList [("a", .string "abc"), ("b", .bool true)]
    Relation.ReflTransGen Loosening f g ∧ (f.validate true s).success = true ∧ (g.validate true s).success = true ∧
      (f.validate false s).success = true := by
  intro a b f g s
  have hloosened : Relation.ReflTransGen Loosening f g := by
    have hdropContainer := Loosening.containers f (.drop [{ fields := [b, a] }] []
      { fields := [{ name := "c", rules := { maxLength := some 1 } }] })
    have hdropField := Loosening.containers f (.change [] [] (.fields {} (.drop [] [a] b)))
    have change {a b : Field} (h : a.Loosening b) :
        Loosening { f with containers := [{ fields := [a] }] } { f with containers := [{ fields := [b] }] } :=
      .containers f (.change [] [] (.fields {} (.change [] [] h)))
    have hbound : ∀ n ∈ some (2 : UInt64), ∃ m ∈ a.rules.minLength, n ≤ m := by
      rintro n ⟨⟩
      exact ⟨3, rfl, by decide⟩
    exact .head hdropContainer (.head hdropField (.head (change (.noPattern a)) (.head (change (.optional _))
      (.head (change (.label _ "")) (.head (change (.minLength _ (some 2) hbound))
        (.single (change (.errorMessage _ (some "short")))))))))
  have hsuccess : (f.validate true s).success = true := by decide +kernel
  obtain ⟨hall, honly⟩ := accepted_of_loosened hloosened s
  exact ⟨hloosened, hsuccess, hall true hsuccess, honly hsuccess⟩

end Form

end Webform
