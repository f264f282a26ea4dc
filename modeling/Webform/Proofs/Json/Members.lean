import Webform.Json.Value
import Webform.Proofs.Occurrences

/-!
# Members in order of insertion

An object is an ordered map. Inserting pairs one after another leaves each key where it was first inserted, with the value that was
inserted last (`Members.Collects`), and this settles the members (`Object.collects_ofPairs`).
-/

namespace Webform.Json

namespace Members

variable {pairs ms : Members} {key : String} {v : Value}

/-! ## One pair inserted -/

theorem eq_or_mem_of_mem_insert {m : String × Value} (h : m ∈ ms.insert key v) : m = (key, v) ∨ m ∈ ms := by
  induction ms with
  | nil => simpa [insert] using h
  | cons n ms ih =>
    unfold insert at h
    split at h
    · rename_i hkey
      rcases List.mem_cons.1 h with rfl | h
      · exact .inl (by rw [hkey])
      · exact .inr (List.mem_cons_of_mem n h)
    · rcases List.mem_cons.1 h with rfl | h
      · exact .inr List.mem_cons_self
      · exact (ih h).imp_right (List.mem_cons_of_mem n)

theorem mem_insert (ms : Members) (key : String) (v : Value) : (key, v) ∈ ms.insert key v := by
  induction ms with
  | nil => exact List.mem_singleton_self _
  | cons n ms ih =>
    unfold insert
    split
    · rename_i hkey
      rw [hkey]
      exact List.mem_cons_self
    · exact List.mem_cons_of_mem n ih

/-- The key that was set has no other value. -/
theorem eq_of_mem_insert (h : (ms.map (·.1)).Nodup) {m : String × Value} (hm : m ∈ ms.insert key v) (hkey : m.1 = key) :
    m = (key, v) :=
  List.inj_on_of_nodup_map (nodup_keys_insert h key v) hm (mem_insert ms key v) hkey

/-! ## Lookup -/

/-- Where keys are distinct, what is found under a key is the value that it stands with. -/
theorem get?_eq_some_iff (h : (ms.map (·.1)).Nodup) : ms.get? key = some v ↔ (key, v) ∈ ms := by
  induction ms with
  | nil => simp [get?]
  | cons n ms ih =>
    obtain ⟨k, w⟩ := n
    rw [List.map_cons, List.nodup_cons] at h
    by_cases hk : k = key
    · have hnew : (key, v) ∉ ms := fun hmem => h.1 (hk ▸ List.mem_map_of_mem (f := (·.1)) hmem)
      simp [get?, hk, hnew, @eq_comm _ v]
    · simpa [get?, hk, Ne.symm hk] using ih h.2

theorem isSome_get?_iff : (ms.get? key).isSome = true ↔ key ∈ ms.map (·.1) := by
  simp [get?]

/-! ## Pairs inserted one after another -/

/-- The members are those of the pairs: each key stands once, in order of first occurrence, with its last value. -/
structure Collects (pairs ms : Members) : Prop where
  keys : FirstOccurrences (pairs.map (·.1)) (fun _ => True) (ms.map (·.1))
  last : ∀ m ∈ ms, ∃ before after, pairs = before ++ m :: after ∧ m.1 ∉ after.map (·.1)

namespace Collects

theorem nil : Collects [] [] := ⟨.nil _, by simp⟩

/-- A further pair is inserted. -/
theorem insert (h : Collects pairs ms) (key : String) (v : Value) : Collects (pairs ++ [(key, v)]) (ms.insert key v) where
  keys := by
    rw [List.map_append]
    by_cases hkey : key ∈ ms.map (·.1)
    · rw [keys_insert_of_mem v hkey]
      exact h.keys.skip (.inl hkey)
    · rw [insert_append v hkey, List.map_append]
      exact h.keys.add hkey trivial
  last m hm := by
    by_cases hkey : m.1 = key
    · obtain rfl := eq_of_mem_insert h.keys.nodup hm hkey
      exact ⟨pairs, [], rfl, by simp⟩
    · obtain rfl | hm := eq_or_mem_of_mem_insert hm
      · exact absurd rfl hkey
      · obtain ⟨before, after, hpairs, hafter⟩ := h.last m hm
        exact ⟨before, after ++ [(key, v)], by simp [hpairs], by simpa [hkey] using hafter⟩

/-- The last value of a key is the first from the end. -/
theorem find?_reverse (h : Collects pairs ms) {m : String × Value} (hm : m ∈ ms) :
    pairs.reverse.find? (fun n => n.1 = m.1) = some m := by
  obtain ⟨before, after, hpairs, hafter⟩ := h.last m hm
  have hnone : after.reverse.find? (fun n => n.1 = m.1) = none := by
    rw [List.find?_eq_none]
    intro n hn hkey
    exact hafter (of_decide_eq_true hkey ▸ List.mem_map_of_mem (f := (·.1)) (List.mem_reverse.1 hn))
  rw [hpairs, List.reverse_append, List.reverse_cons, List.append_assoc, List.find?_append, hnone]
  simp

/-- The pairs settle the members. -/
theorem unique {ns : Members} (h : Collects pairs ms) (h' : Collects pairs ns) : ms = ns := by
  have hkeys := h.keys.unique h'.keys
  have hlength : ms.length = ns.length := by simpa using congrArg List.length hkeys
  apply List.ext_getElem hlength
  intro i hi hi'
  have hkey : ms[i].1 = ns[i].1 := by
    have hat := List.getElem_of_eq hkeys (i := i) (by simpa using hi)
    simpa using hat
  have hvalue := h'.find?_reverse (List.getElem_mem hi')
  rw [← hkey, h.find?_reverse (List.getElem_mem hi)] at hvalue
  exact Option.some.inj hvalue

end Collects

end Members

namespace Object

variable {pairs ms : Members}

theorem ofPairs_snoc (pairs : Members) (key : String) (v : Value) : ofPairs (pairs ++ [(key, v)]) = (ofPairs pairs).insert key v := by
  rw [ofPairs, List.foldl_append]
  rfl

theorem collects_ofPairs (pairs : Members) : pairs.Collects (ofPairs pairs).members := by
  induction pairs using List.reverseRecOn with
  | nil => exact .nil
  | append_singleton pairs m ih =>
    rw [ofPairs_snoc]
    exact ih.insert m.1 m.2

/-- Pairs with distinct keys are the members of the object that they make. -/
theorem ofPairs_eq_mk (h : (ms.map (·.1)).Nodup) : ofPairs ms = ⟨ms, h⟩ := by
  induction ms using List.reverseRecOn with
  | nil => rfl
  | append_singleton ms m ih =>
    have hsplit := h
    rw [List.map_append, List.nodup_append] at hsplit
    have hnew : m.1 ∉ ms.map (·.1) := fun hmem => hsplit.2.2 m.1 hmem m.1 (by simp) rfl
    rw [ofPairs_snoc, ih hsplit.1]
    exact Object.ext (Members.insert_append m.2 hnew)

end Object

theorem Members.Collects.eq_ofPairs {pairs ms : Members} (h : pairs.Collects ms) : ms = (Object.ofPairs pairs).members :=
  h.unique (Object.collects_ofPairs pairs)

end Webform.Json
