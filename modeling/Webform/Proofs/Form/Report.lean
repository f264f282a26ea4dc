import Webform.Proofs.Form.Steps

/-!
# What is reported of the steps

`Form.violations` counts how often the steps list each container and then goes through the list once more, keeping what it has
reported. `Form.Reported` says what comes of it without counting rounds: the shared containers by first occurrence
(`FirstOccurrences`), each once, then the containers in no step as often as the form has them. There is one such report, and it is
the one that is made (`Form.reported_iff_violations`).
-/

namespace Webform

namespace Form

/-- The containers that no step lists, in order, as often as the form has them. -/
def stray (f : Form) : List Container := f.containers.filter fun c => f.holders c.id = 0

/-- What there is to report of the steps of a form. A form on one page has nothing to report, a form without a step only that. In any
other form the containers that are listed at least twice come first, and after them those that no step lists. -/
inductive Reported (f : Form) : List Violation → Prop
  | onePage : f.isMultiStep = false → Reported f []
  | noSteps : f.isMultiStep = true → f.steps = [] → Reported f [.noSteps]
  | steps (shared : List Identifier) : f.isMultiStep = true → f.steps ≠ [] →
      FirstOccurrences f.stepContainers (fun i => 2 ≤ f.stepContainers.count i) shared →
      Reported f (shared.map .shared ++ f.stray.map fun c => .unassigned c.id)

/-- A container is in no step exactly when it is not listed. -/
theorem holders_eq_zero_iff (f : Form) (id : Identifier) : f.holders id = 0 ↔ id ∉ f.stepContainers := by
  rw [← f.holders_pos_iff, Nat.pos_iff_ne_zero, not_not]

/-- The containers that the counting map does not have are those that no step lists. -/
theorem filter_listings_eq_stray (f : Form) : (f.containers.filter fun c => (f.listings.get? c.id).isNone) = f.stray := by
  unfold stray
  congr 1
  funext c
  rw [Bool.eq_iff_iff]
  simp [holders_eq_zero_iff]

/-- What is found wrong is a report. -/
theorem reported_violations (f : Form) : f.Reported f.violations := by
  unfold violations
  split
  · rename_i h
    exact .onePage (by simpa using h)
  · rename_i h
    have hmulti : f.isMultiStep = true := by simpa using h
    split
    · rename_i hsteps
      exact .noSteps hmulti (List.isEmpty_iff.1 hsteps)
    · rename_i hsteps
      have hreported := Reported.steps _ hmulti (fun hnil => hsteps (List.isEmpty_iff.2 hnil)) f.firstOccurrences_shared
      rwa [← filter_listings_eq_stray] at hreported

/-- There is only one report of a form. -/
theorem Reported.unique {f : Form} {vs ws : List Violation} (hv : f.Reported vs) (hw : f.Reported ws) : vs = ws := by
  cases hv with
  | onePage h => cases hw <;> simp_all
  | noSteps h hsteps => cases hw <;> simp_all
  | steps shared h hsteps hshared =>
    cases hw with
    | onePage h' => simp_all
    | noSteps h' hsteps' => exact absurd hsteps' hsteps
    | steps shared' _ _ hshared' => rw [hshared.unique hshared']

theorem exists_mem_stray_iff (f : Form) (id : Identifier) :
    (∃ c ∈ f.stray, c.id = id) ↔ f.holders id = 0 ∧ ∃ c ∈ f.containers, c.id = id := by
  simp only [stray, List.mem_filter, decide_eq_true_eq]
  constructor
  · rintro ⟨c, ⟨hc, hnone⟩, rfl⟩
    exact ⟨hnone, c, hc, rfl⟩
  · rintro ⟨hnone, c, hc, rfl⟩
    exact ⟨c, ⟨hc, hnone⟩, rfl⟩

theorem unassigned_mem_violations_iff (f : Form) (id : Identifier) :
    .unassigned id ∈ f.violations ↔
      f.isMultiStep = true ∧ f.steps ≠ [] ∧ f.holders id = 0 ∧ ∃ c ∈ f.containers, c.id = id := by
  rw [← exists_mem_stray_iff]
  unfold violations
  split
  · simp_all
  · split
    · simp_all
    · simp_all [filter_listings_eq_stray]

/-- The violations of a form are the report of it, and no container is reported in both ways. The check fails with the first of them
and passes when there is none. -/
theorem reported_iff_violations (f : Form) :
    (∀ vs, f.Reported vs ↔ vs = f.violations) ∧
      (∀ id, ¬(.shared id ∈ f.violations ∧ .unassigned id ∈ f.violations)) ∧
      (∀ v, f.check = .error v ↔ ∃ vs, f.violations = v :: vs) ∧ (f.check = .ok () ↔ f.violations = []) := by
  refine ⟨?_, ?_, fun _ => check_eq_error_iff, f.check_eq_ok_iff⟩
  · intro vs
    constructor
    · intro h
      exact h.unique f.reported_violations
    · rintro rfl
      exact f.reported_violations
  · rintro id ⟨hshared, hunassigned⟩
    have hcount := ((f.shared_mem_violations_iff id).1 hshared).2
    have hnone := (f.holders_eq_zero_iff id).1 ((f.unassigned_mem_violations_iff id).1 hunassigned).2.2.1
    rw [List.count_eq_zero.2 hnone] at hcount
    exact absurd hcount (by decide)

/-- A form whose steps list one container three times and another twice, in turns, and never the form's third one, which it has
twice. -/
theorem reported_iff_violations_in_turns :
    let f : Form := {
      isMultiStep := true, containers := [{ id := .ofNat 3 }, { id := .ofNat 1 }, { id := .ofNat 3 }]
      steps := [{ containers := [{ id := .ofNat 4 }, { id := .ofNat 2 }, { id := .ofNat 1 }] },
        { containers := [{ id := .ofNat 1 }, { id := .ofNat 2 }, { id := .ofNat 1 }] }] }
    f.Reported [.shared (.ofNat 2), .shared (.ofNat 1), .unassigned (.ofNat 3), .unassigned (.ofNat 3)] ∧
      f.check = .error (.shared (.ofNat 2)) := by
  intro f
  exact ⟨((reported_iff_violations f).1 _).2 rfl, ((reported_iff_violations f).2.2.1 _).2 ⟨_, rfl⟩⟩

end Form

end Webform
