import Mathlib.Data.List.Induction
import Mathlib.Data.List.Sort

/-!
# First occurrences

The members of a list that have a property, each once and where it is first met (`FirstOccurrences`). There is one such list, and going
through the members and keeping the new ones makes it.
-/

namespace Webform

variable {α : Type} [DecidableEq α] {ids seen : List α} {p : α → Prop}

/-- The members of a list that have a property, each once, in order of first occurrence in the list. -/
structure FirstOccurrences (ids : List α) (p : α → Prop) (seen : List α) : Prop where
  mem_iff : ∀ i, i ∈ seen ↔ i ∈ ids ∧ p i
  nodup : seen.Nodup
  ordered : seen.Pairwise fun i j => ids.idxOf i < ids.idxOf j

namespace FirstOccurrences

theorem nil (p : α → Prop) : FirstOccurrences [] p [] :=
  ⟨by simp, .nil, .nil⟩

/-- A further member of the list leaves the places of the earlier ones as they are. -/
theorem ordered_snoc (h : FirstOccurrences ids p seen) (i : α) :
    seen.Pairwise fun j k => (ids ++ [i]).idxOf j < (ids ++ [i]).idxOf k := by
  apply List.Pairwise.imp_of_mem _ h.ordered
  intro j k hj hk hlt
  rwa [List.idxOf_append_of_mem ((h.mem_iff j).1 hj).1, List.idxOf_append_of_mem ((h.mem_iff k).1 hk).1]

/-- A member without the property, or one that has been seen, changes nothing. -/
theorem skip (h : FirstOccurrences ids p seen) {i : α} (hi : i ∈ seen ∨ ¬p i) : FirstOccurrences (ids ++ [i]) p seen := by
  refine ⟨?_, h.nodup, h.ordered_snoc i⟩
  intro j
  rw [h.mem_iff, List.mem_append, List.mem_singleton]
  constructor
  · rintro ⟨hj, hp⟩
    exact ⟨Or.inl hj, hp⟩
  · rintro ⟨hj | rfl, hp⟩
    · exact ⟨hj, hp⟩
    · rcases hi with hi | hi
      · exact (h.mem_iff j).1 hi
      · exact absurd hp hi

/-- A member with the property that has not been seen goes to the end: everything seen stands before it in the list. -/
theorem add (h : FirstOccurrences ids p seen) {i : α} (hi : i ∉ seen) (hp : p i) :
    FirstOccurrences (ids ++ [i]) p (seen ++ [i]) := by
  have hnew : i ∉ ids := by
    intro hmem
    exact hi ((h.mem_iff i).2 ⟨hmem, hp⟩)
  refine ⟨?_, ?_, ?_⟩
  · intro j
    rw [List.mem_append, List.mem_append, List.mem_singleton, h.mem_iff]
    constructor
    · rintro (⟨hj, hpj⟩ | rfl)
      · exact ⟨Or.inl hj, hpj⟩
      · exact ⟨Or.inr rfl, hp⟩
    · rintro ⟨hj | rfl, hpj⟩
      · exact Or.inl ⟨hj, hpj⟩
      · exact Or.inr rfl
  · rw [List.nodup_append_comm]
    exact List.nodup_cons.2 ⟨hi, h.nodup⟩
  · refine List.pairwise_append.2 ⟨h.ordered_snoc i, List.pairwise_singleton _ _, ?_⟩
    intro j hj k hk
    obtain rfl := List.mem_singleton.1 hk
    have hmem := ((h.mem_iff j).1 hj).1
    rw [List.idxOf_append_of_mem hmem, List.idxOf_append_of_notMem hnew]
    exact Nat.lt_of_lt_of_le (List.idxOf_lt_length_iff.2 hmem) (Nat.le_add_right _ _)

/-- Going through the members and keeping the new ones that have the property leaves their first occurrences. -/
theorem foldl_seen (p : α → Prop) [DecidablePred p] (ids : List α) :
    FirstOccurrences ids p (ids.foldl (fun seen i => if p i ∧ i ∉ seen then seen ++ [i] else seen) []) := by
  -- What has been read is a start of the list, so the list grows at its end.
  induction ids using List.reverseRecOn with
  | nil => exact nil p
  | append_singleton ids i ih =>
    rw [List.foldl_append, List.foldl_cons, List.foldl_nil]
    split
    · rename_i hi
      exact ih.add hi.2 hi.1
    · rename_i hi
      exact ih.skip (Decidable.or_iff_not_imp_left.2 fun hnew hp => hi ⟨hp, hnew⟩)

/-- Which members have the property settles the list. -/
theorem unique {seen' : List α} (h : FirstOccurrences ids p seen) (h' : FirstOccurrences ids p seen') : seen = seen' := by
  have : Std.Irrefl fun i j => ids.idxOf i < ids.idxOf j := ⟨fun _ => Nat.lt_irrefl _⟩
  have : Std.Antisymm fun i j => ids.idxOf i < ids.idxOf j := ⟨fun _ _ hlt hgt => absurd hgt (Nat.lt_asymm hlt)⟩
  exact h.ordered.eq_of_mem_iff h'.ordered fun i => (h.mem_iff i).trans (h'.mem_iff i).symm

end FirstOccurrences

end Webform
