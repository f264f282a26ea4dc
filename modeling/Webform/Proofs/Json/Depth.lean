import Webform.Proofs.Json.Written

/-!
# How deep written values nest

A text is read only if it opens few enough brackets at a time. What a codec writes opens as many as the parts of the value do,
and one for each list or record around them.
-/

namespace Webform.Json

namespace Value

theorem itemsDepth_le {vs : List Value} {n : Nat} (h : ∀ v ∈ vs, v.depth ≤ n) : itemsDepth vs ≤ n := by
  induction vs with
  | nil => exact Nat.zero_le n
  | cons v vs ih => exact Nat.max_le.2 ⟨h v (by simp), ih fun w hw => h w (by simp [hw])⟩

theorem membersDepth_le {ms : Members} {n : Nat} (h : ∀ m ∈ ms, m.2.depth ≤ n) : membersDepth ms ≤ n := by
  induction ms with
  | nil => exact Nat.zero_le n
  | cons m ms ih => exact Nat.max_le.2 ⟨h m (by simp), ih fun p hp => h p (by simp [hp])⟩

end Value

variable {α R : Type}

theorem Codec.depth_write_list_le {c : Codec α} {as : List α} {n : Nat} (h : ∀ a ∈ as, (c.write a).depth ≤ n) :
    ((list c).write as).depth ≤ n + 1 := by
  refine Nat.succ_le_succ (Value.itemsDepth_le fun v hv => ?_)
  obtain ⟨a, ha, rfl⟩ := List.mem_map.1 hv
  exact h a ha

theorem Codec.depth_write_optional_le {c : Codec α} {o : Option α} {n : Nat} (h : ∀ a, o = some a → (c.write a).depth ≤ n) :
    ((optional c).write o).depth ≤ n := by
  cases o with
  | none => exact Nat.zero_le n
  | some a => exact h a rfl

/-- What the member writes of the record opens at most `n` brackets. -/
def Member.Shallow (n : Nat) (a : R) (m : Member R) : Prop :=
  ∀ v, m.write a = some v → v.depth ≤ n

theorem Member.Shallow.of {key : String} {c : Codec α} {get : R → α} {set : R → α → R} {n : Nat} {a : R}
    (h : (c.write (get a)).depth ≤ n) : (Member.of key c get set).Shallow n a := by
  rintro v ⟨⟩
  exact h

/-- A text opens no bracket. -/
theorem Member.Shallow.optionalText {key : String} {get : R → Option String} {set : R → Option String → R} (n : Nat) (a : R) :
    (Member.of key (.optional .text) get set).Shallow n a :=
  .of (Codec.depth_write_optional_le fun _ _ => Nat.zero_le n)

theorem Record.depth_write_le {rec : Record R} {a : R} {n : Nat} (h : ∀ m ∈ rec.members, m.Shallow n a) :
    (rec.codec.write a).depth ≤ n + 1 := by
  refine Nat.succ_le_succ (Value.membersDepth_le fun p hp => ?_)
  obtain ⟨m, hm, hp⟩ := List.mem_filterMap.1 hp
  obtain ⟨v, hv, rfl⟩ := Option.map_eq_some_iff.1 hp
  exact h m hm v hv

end Webform.Json
