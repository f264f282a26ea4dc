import Webform.Form.Violation
import Webform.Proofs.Occurrences

/-!
# Containers and the steps that list them

A form that is filled in step by step should have a step, and each container of its own should be in exactly one of them
(`Form.Assigned`). `Form.check` does not ask which steps list a container: it counts how often it is listed, over all steps together.
So it asks for more. A container that two steps list is wrong also when it is none of the form's own (`Form.Exclusive`), and a
container that one step lists twice is taken for one that two steps list. `check_eq_ok_assigned` tells what the check decides
where no step lists a container twice.
-/

namespace Webform

/-- Whether the step lists a container with the identifier. -/
def Step.lists (s : Step) (id : Identifier) : Bool := s.containers.any fun c => c.id = id

/-- How often the step lists a container with the identifier. -/
def Step.mentions (s : Step) (id : Identifier) : Nat := (s.containers.map (·.id)).count id

namespace Form

/-- The number of steps that list a container with the identifier. -/
def holders (f : Form) (id : Identifier) : Nat := f.steps.countP (·.lists id)

/-- A form that is filled in step by step has a step, and exactly one step lists each container of the form's own. -/
def Assigned (f : Form) : Prop := f.isMultiStep = false ∨ (f.steps ≠ [] ∧ ∀ c ∈ f.containers, f.holders c.id = 1)

/-- In a form that is filled in step by step no two steps list one container, be it the form's own or not. -/
def Exclusive (f : Form) : Prop := f.isMultiStep = false ∨ ∀ id, f.holders id ≤ 1

end Form

/-! ## Counting over all steps -/

theorem Step.lists_iff (s : Step) (id : Identifier) : s.lists id = true ↔ 0 < s.mentions id := by
  simp [lists, mentions, List.count_pos_iff]

variable {id : Identifier}

/-- A container is listed at least once by each step that lists it. -/
theorem countP_lists_le (ss : List Step) :
    ss.countP (·.lists id) ≤ (ss.flatMap fun s => s.containers.map (·.id)).count id := by
  induction ss with
  | nil => simp
  | cons s ss ih =>
    rw [List.flatMap_cons, List.count_append, List.countP_cons]
    split
    · rename_i h
      have hs := (s.lists_iff id).1 h
      unfold Step.mentions at hs
      omega
    · omega

/-- Where no step lists a container twice, it is listed as often as there are steps that list it. -/
theorem countP_lists_eq {ss : List Step} (h : ∀ s ∈ ss, s.mentions id ≤ 1) :
    ss.countP (·.lists id) = (ss.flatMap fun s => s.containers.map (·.id)).count id := by
  induction ss with
  | nil => simp
  | cons s ss ih =>
    have hs := h s (by simp)
    have hlists := s.lists_iff id
    unfold Step.mentions at hs hlists
    rw [List.flatMap_cons, List.count_append, List.countP_cons, ih fun t ht => h t (by simp [ht])]
    split
    · rename_i hyes
      have := hlists.1 hyes
      omega
    · rename_i hno
      have := mt hlists.2 hno
      omega

namespace Form

theorem holders_le_count (f : Form) (id : Identifier) : f.holders id ≤ f.stepContainers.count id :=
  countP_lists_le f.steps

theorem holders_eq_count {f : Form} (h : ∀ s ∈ f.steps, s.mentions id ≤ 1) : f.holders id = f.stepContainers.count id :=
  countP_lists_eq h

/-- A container that the steps list at all is listed by a step. -/
theorem holders_pos_iff (f : Form) (id : Identifier) : 0 < f.holders id ↔ id ∈ f.stepContainers := by
  simp [holders, stepContainers, List.countP_pos_iff, Step.lists]

end Form

/-! ## The counting map -/

namespace Listings

theorem get?_add (ls : Listings) (i : Identifier) :
    (ls.add i).get? id = if id = i then some ((ls.get? i).getD 0 + 1) else ls.get? id := by
  induction ls with
  | nil => by_cases h : id = i <;> simp [add, get?, h, @eq_comm _ i]
  | cons l ls ih =>
    obtain ⟨j, n⟩ := l
    by_cases hj : j = i
    · subst hj
      by_cases h : id = j <;> simp [add, get?, h, @eq_comm _ j]
    · by_cases h : j = id
      · have hid : id ≠ i := fun hi => hj (h.trans hi)
        simp [add, get?, h, hid]
      · simpa [add, get?, hj, h] using ih

/-- Counting the members of a list one after another adds how often each occurs. -/
theorem get?_foldl_add (ids : List Identifier) (ls : Listings) :
    (ids.foldl add ls).get? id = if id ∈ ids then some ((ls.get? id).getD 0 + ids.count id) else ls.get? id := by
  induction ids generalizing ls with
  | nil => simp
  | cons i ids ih =>
    rw [List.foldl_cons, ih, get?_add]
    by_cases h : id = i
    · subst h
      by_cases hmem : id ∈ ids
      · simp [hmem]
        omega
      · simp [hmem, List.count_eq_zero.2 hmem]
    · simp [h, List.count_cons_of_ne (Ne.symm h)]

end Listings

namespace Form

/-- Going through the steps and the containers of each is going through all that they list. -/
theorem foldl_stepContainers {β : Type} (g : β → Identifier → β) (f : Form) (b : β) :
    f.stepContainers.foldl g b = f.steps.foldl (fun b s => s.containers.foldl (fun b c => g b c.id) b) b := by
  simp [stepContainers, List.foldl_flatMap, List.foldl_map]

/-- The counting map has the containers that are listed, each with the number of its listings. -/
theorem get?_listings (f : Form) (id : Identifier) :
    f.listings.get? id = if id ∈ f.stepContainers then some (f.stepContainers.count id) else none := by
  rw [listings, ← foldl_stepContainers Listings.add, Listings.get?_foldl_add]
  simp [Listings.get?]

theorem getD_get?_listings (f : Form) (id : Identifier) : (f.listings.get? id).getD 0 = f.stepContainers.count id := by
  rw [get?_listings]
  split
  · rfl
  · rename_i h
    exact (List.count_eq_zero.2 h).symm

@[simp] theorem get?_listings_eq_none_iff (f : Form) (id : Identifier) :
    f.listings.get? id = none ↔ id ∉ f.stepContainers := by
  rw [get?_listings]
  split <;> simp_all

/-! ## What is reported -/

theorem firstOccurrences_shared (f : Form) :
    FirstOccurrences f.stepContainers (fun i => 2 ≤ f.stepContainers.count i) (f.sharedContainers f.listings) := by
  have h := FirstOccurrences.foldl_seen (fun i => 2 ≤ f.stepContainers.count i) f.stepContainers
  rw [foldl_stepContainers] at h
  simpa [sharedContainers, getD_get?_listings, Nat.lt_iff_add_one_le] using h

@[simp] theorem mem_sharedContainers_iff (f : Form) (id : Identifier) :
    id ∈ f.sharedContainers f.listings ↔ 1 < f.stepContainers.count id := by
  rw [f.firstOccurrences_shared.mem_iff]
  exact ⟨And.right, fun h => ⟨List.count_pos_iff.1 (Nat.zero_lt_of_lt h), h⟩⟩

/-- A container is reported as shared when the steps of a form that is filled in step by step list it more than once. -/
theorem shared_mem_violations_iff (f : Form) (id : Identifier) :
    .shared id ∈ f.violations ↔ f.isMultiStep = true ∧ 1 < f.stepContainers.count id := by
  unfold violations
  split
  · simp_all
  · split
    · simp_all [stepContainers]
    · simp_all

theorem check_eq_ok_iff (f : Form) : f.check = .ok () ↔ f.violations = [] := by
  unfold check
  split <;> simp_all

/-- The error of a check is the first violation. -/
theorem check_eq_error_iff {f : Form} {v : Violation} : f.check = .error v ↔ ∃ vs, f.violations = v :: vs := by
  unfold check
  cases f.violations with
  | nil => simp
  | cons w vs => simp

theorem mem_violations_of_check {f : Form} {v : Violation} (h : f.check = .error v) : v ∈ f.violations := by
  obtain ⟨vs, hv⟩ := check_eq_error_iff.1 h
  rw [hv]
  exact List.mem_cons_self

/-- Nothing is wrong with a form that is filled in step by step when it has a step, no container is listed more than once, and
each of its own is listed. -/
theorem violations_eq_nil_iff (f : Form) :
    f.violations = [] ↔ f.isMultiStep = false ∨
      (f.steps ≠ [] ∧ (∀ id, f.stepContainers.count id ≤ 1) ∧ ∀ c ∈ f.containers, c.id ∈ f.stepContainers) := by
  unfold violations
  split
  · simp_all
  · split
    · simp_all
    · have hshared : f.sharedContainers f.listings = [] ↔ ∀ id, f.stepContainers.count id ≤ 1 := by
        simp [List.eq_nil_iff_forall_not_mem]
      simp_all [List.filter_eq_nil_iff]

/-! ## What the check decides -/

/-- A form that passes the check has its containers assigned and its steps exclusive. Conversely, where no step lists a container
twice, such a form passes; and a container that no step lists twice is reported as shared only if more than one step lists it. -/
theorem check_eq_ok_assigned (f : Form) :
    (f.check = .ok () → f.Assigned ∧ f.Exclusive) ∧
      ((∀ s ∈ f.steps, (s.containers.map (·.id)).Nodup) → f.Assigned → f.Exclusive → f.check = .ok ()) ∧
      ∀ id, (∀ s ∈ f.steps, s.mentions id ≤ 1) →
        f.check = .error (.shared id) ∨ .shared id ∈ f.violations → 1 < f.holders id := by
  rw [check_eq_ok_iff, violations_eq_nil_iff]
  refine ⟨?_, ?_, ?_⟩
  · rintro (h | ⟨hsteps, hcount, hown⟩)
    · exact ⟨Or.inl h, Or.inl h⟩
    · have hle : ∀ id, f.holders id ≤ 1 := fun id => Nat.le_trans (f.holders_le_count id) (hcount id)
      refine ⟨Or.inr ⟨hsteps, fun c hc => ?_⟩, Or.inr hle⟩
      have hpos := (f.holders_pos_iff c.id).2 (hown c hc)
      have := hle c.id
      omega
  · rintro hnodup (h | ⟨hsteps, hown⟩) (h' | hle)
    · exact Or.inl h
    · exact Or.inl h
    · exact Or.inl h'
    · refine Or.inr ⟨hsteps, fun id => ?_, fun c hc => ?_⟩
      · rw [← holders_eq_count fun s hs => List.nodup_iff_count.1 (hnodup s hs) id]
        exact hle id
      · rw [← f.holders_pos_iff, hown c hc]
        exact Nat.one_pos
  · intro id hmentions hreported
    have hshared : .shared id ∈ f.violations := by
      rcases hreported with h | h
      · exact mem_violations_of_check h
      · exact h
    rw [holders_eq_count hmentions]
    exact ((f.shared_mem_violations_iff id).1 hshared).2

/-- A form that passes with two steps, and one that does not since the steps share a container. -/
theorem check_eq_ok_assigned_two_steps :
    let f : Form := {
      isMultiStep := true, containers := [{ id := .ofNat 1 }, { id := .ofNat 2 }]
      steps := [{ containers := [{ id := .ofNat 1 }] }, { containers := [{ id := .ofNat 2 }, { id := .ofNat 3 }] }] }
    let g : Form := { f with steps := f.steps ++ [{ containers := [{ id := .ofNat 3 }] }] }
    (∀ s ∈ f.steps, (s.containers.map (·.id)).Nodup) ∧ f.Assigned ∧ f.Exclusive ∧ f.check = .ok () ∧
      (∀ s ∈ g.steps, s.mentions (.ofNat 3) ≤ 1) ∧ g.check = .error (.shared (.ofNat 3)) ∧ 1 < g.holders (.ofNat 3) := by
  intro f g
  have hnodup : ∀ s ∈ f.steps, (s.containers.map (·.id)).Nodup := by decide
  have hmentions : ∀ s ∈ g.steps, s.mentions (.ofNat 3) ≤ 1 := by decide
  have hshared : g.check = .error (.shared (.ofNat 3)) := rfl
  obtain ⟨hassigned, hexclusive⟩ := (check_eq_ok_assigned f).1 rfl
  exact ⟨hnodup, hassigned, hexclusive, (check_eq_ok_assigned f).2.1 hnodup hassigned hexclusive, hmentions, hshared,
    (check_eq_ok_assigned g).2.2 _ hmentions (Or.inl hshared)⟩

/-- The check is not about the form's own containers alone, nor about different steps. It turns two forms down whose one container
is in exactly one step: one since two steps list another container, the other since its step lists the container twice. -/
theorem check_eq_ok_iff_assigned_false :
    let f : Form := {
      isMultiStep := true, containers := [{ id := .ofNat 1 }]
      steps := [{ containers := [{ id := .ofNat 1 }, { id := .ofNat 2 }] }, { containers := [{ id := .ofNat 2 }] }] }
    let g : Form := {
      isMultiStep := true, containers := [{ id := .ofNat 1 }]
      steps := [{ containers := [{ id := .ofNat 1 }, { id := .ofNat 1 }] }] }
    (f.check = .error (.shared (.ofNat 2)) ∧ ¬(f.check = .ok () ↔ f.Assigned)) ∧
      (g.check = .error (.shared (.ofNat 1)) ∧ ¬(g.check = .ok () ↔ g.Assigned) ∧ ¬1 < g.holders (.ofNat 1)) := by
  intro f g
  have hf : f.Assigned := Or.inr ⟨List.cons_ne_nil _ _, by decide⟩
  have hg : g.Assigned := Or.inr ⟨List.cons_ne_nil _ _, by decide⟩
  have hcheck : ∀ {h : Form} {v : Violation}, h.check = .error v → h.Assigned → ¬(h.check = .ok () ↔ h.Assigned) := by
    intro h v herror hassigned hiff
    rw [hiff.2 hassigned] at herror
    cases herror
  have hshared : f.check = .error (.shared (.ofNat 2)) := rfl
  have htwice : g.check = .error (.shared (.ofNat 1)) := rfl
  exact ⟨⟨hshared, hcheck hshared hf⟩, htwice, hcheck htwice hg, by decide⟩

end Form

end Webform
