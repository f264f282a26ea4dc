import Webform.Markup.Page
import Webform.Proofs.Form.Report
import Webform.Validation

/-!
# The order of steps

Steps are presented by ascending order, and those of one order as the form lists them. How a form lists its steps matters to nothing
else: a form whose steps are listed differently has the same violations, though they may be reported in another order, and it is shown
and validated the same (`Form.interchangeable_of_steps_perm`).
-/

namespace Webform

namespace Form

/-! ## Presentation -/

theorem orderedSteps_perm (f : Form) : f.orderedSteps.Perm f.steps := List.mergeSort_perm _ _

theorem order_le_trans (a b c : Step) (hab : decide (a.order ≤ b.order) = true) (hbc : decide (b.order ≤ c.order) = true) :
    decide (a.order ≤ c.order) = true :=
  decide_eq_true (Int32.le_trans (of_decide_eq_true hab) (of_decide_eq_true hbc))

theorem order_le_total (a b : Step) : (decide (a.order ≤ b.order) || decide (b.order ≤ a.order)) = true := by
  simpa using Int32.le_total a.order b.order

theorem orderedSteps_ascending (f : Form) : f.orderedSteps.Pairwise fun a b => a.order ≤ b.order :=
  (List.pairwise_mergeSort order_le_trans order_le_total f.steps).imp of_decide_eq_true

/-- Steps of one order stay as they stand. -/
theorem orderedSteps_filter_order (f : Form) (order : Int32) :
    f.orderedSteps.filter (·.order = order) = f.steps.filter (·.order = order) := by
  have hsorted : (f.steps.filter (·.order = order)).Pairwise fun a b => decide (a.order ≤ b.order) = true := by
    refine List.pairwise_of_forall_mem_list fun a ha b hb => ?_
    have ha : a.order = order := by simpa using (List.mem_filter.1 ha).2
    have hb : b.order = order := by simpa using (List.mem_filter.1 hb).2
    rw [ha, hb]
    exact decide_eq_true (Int32.le_refl order)
  have hsub : (f.steps.filter (·.order = order)).Sublist f.orderedSteps :=
    List.sublist_mergeSort order_le_trans order_le_total hsorted List.filter_sublist
  have hfiltered : (f.steps.filter (·.order = order)).Sublist (f.orderedSteps.filter (·.order = order)) := by
    simpa only [List.filter_filter, Bool.and_self] using hsub.filter (·.order = order)
  -- Both lists have as many members, since sorting drops none.
  exact (hfiltered.eq_of_length (f.orderedSteps_perm.filter _).length_eq.symm).symm

/-! ## Steps that are listed differently -/

variable {f : Form} {ss : List Step}

theorem stepContainers_perm (h : ss.Perm f.steps) : ({ f with steps := ss } : Form).stepContainers.Perm f.stepContainers :=
  h.flatMap_right _

theorem sharedContainers_perm (h : ss.Perm f.steps) :
    (sharedContainers { f with steps := ss } (listings { f with steps := ss })).Perm (f.sharedContainers f.listings) := by
  refine (List.perm_ext_iff_of_nodup (firstOccurrences_shared _).nodup f.firstOccurrences_shared.nodup).2 fun i => ?_
  rw [mem_sharedContainers_iff, mem_sharedContainers_iff, (stepContainers_perm h).count_eq]

theorem violations_perm (h : ss.Perm f.steps) : ({ f with steps := ss } : Form).violations.Perm f.violations := by
  have hempty : ss.isEmpty = f.steps.isEmpty := h.isEmpty_eq
  have hlistings (i : Identifier) : (listings { f with steps := ss }).get? i = f.listings.get? i := by
    rw [get?_listings, get?_listings, (stepContainers_perm h).count_eq]
    simp only [(stepContainers_perm h).mem_iff]
  unfold violations
  simp only [hempty, hlistings]
  split
  · exact .refl _
  · split
    · exact .refl _
    · exact ((sharedContainers_perm h).map _).append_right _

/-- Two forms with the same violations, of which one passes the check if the other does, and which are shown and validated the same. -/
structure Interchangeable (f g : Form) : Prop where
  violations : f.violations.Perm g.violations
  check : f.check = .ok () ↔ g.check = .ok ()
  render : ∀ o, f.render o = g.render o
  validate : ∀ enforce s, f.validate enforce s = g.validate enforce s

theorem interchangeable_with_steps (h : ss.Perm f.steps) : Interchangeable { f with steps := ss } f where
  violations := violations_perm h
  check := by
    rw [check_eq_ok_iff, check_eq_ok_iff, ← List.length_eq_zero_iff, ← List.length_eq_zero_iff, (violations_perm h).length_eq]
  render _ := rfl
  validate _ _ := rfl

/-- Steps are presented by ascending order, those of one order as they stand. A form whose steps are listed in another order, such as
that in which they are presented, is interchangeable with the form in everything else. -/
theorem interchangeable_of_steps_perm (f : Form) :
    (f.orderedSteps.Perm f.steps ∧ (f.orderedSteps.Pairwise fun a b => a.order ≤ b.order) ∧
        ∀ order, f.orderedSteps.filter (·.order = order) = f.steps.filter (·.order = order)) ∧
      (∀ ss : List Step, ss.Perm f.steps → Interchangeable { f with steps := ss } f) ∧
      Interchangeable { f with steps := f.orderedSteps } f :=
  ⟨⟨f.orderedSteps_perm, f.orderedSteps_ascending, f.orderedSteps_filter_order⟩, fun _ h => interchangeable_with_steps h,
    interchangeable_with_steps f.orderedSteps_perm⟩

/-- A form with two steps of one order and one that comes before them, since its order is negative. Listed backwards, the steps share
the same two containers, of which now the other is found first. -/
theorem interchangeable_of_steps_perm_backwards :
    let a : Step := { order := 3, title := "a", containers := [{ id := .ofNat 1 }, { id := .ofNat 2 }] }
    let b : Step := { order := -1, title := "b" }
    let c : Step := { order := 3, title := "c", containers := [{ id := .ofNat 2 }, { id := .ofNat 1 }] }
    let f : Form := { isMultiStep := true, steps := [a, b, c] }
    let g : Form := { f with steps := [c, b, a] }
    f.orderedSteps.map (·.title) = ["b", "a", "c"] ∧ g.steps.Perm f.steps ∧ Interchangeable g f ∧
      f.violations = [.shared (.ofNat 1), .shared (.ofNat 2)] ∧ g.violations = [.shared (.ofNat 2), .shared (.ofNat 1)] := by
  intro a b c f g
  have hperm : g.steps.Perm f.steps := List.reverse_perm [a, b, c]
  have hordered : f.orderedSteps.map (·.title) = ["b", "a", "c"] := by simp [f, a, b, c, orderedSteps, List.mergeSort]
  exact ⟨hordered, hperm, (interchangeable_of_steps_perm f).2.1 g.steps hperm, rfl, rfl⟩

end Form

end Webform
