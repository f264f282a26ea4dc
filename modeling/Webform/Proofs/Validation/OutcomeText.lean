import Webform.Proofs.Json.Yields
import Webform.Submission

/-!
# Submissions and outcomes read back

What is written of a submission or of an outcome is read back as it was, where a text keeps the values (`Value.Exact`). The values of
a submission that was read have distinct keys too, and the outcome that carries it opens one bracket more than it does.
-/

namespace Webform

open Json

namespace Submission

/-- A submission is read with distinct keys on every level, and its values open one bracket less than it does. -/
theorem yields : Yields codec.read fun d s => s.values.AsRead (d - 1) := by
  intro lim cs s rest hread
  obtain ⟨o, ho, rfl⟩ := Scan.as_eq_ok_iff.1 hread
  exact yields_members lim cs o rest ho

/-- A text keeps the values of a submission that was read, if their numbers are integers of 64 bits. -/
theorem exact_of_ofText {text : String} {s : Submission} (h : ofText text = .ok s) (hintegral : ∀ m ∈ s.toList, m.2.Integral) :
    ∀ m ∈ s.toList, m.2.Exact :=
  fun m hm => ((yields.ofText h).keyed m hm).exact (hintegral m hm)

/-- The text of an object, in which a name may be repeated, is read as its members inserted one after another. -/
theorem reads_object {ms : Members} (h : ∀ m ∈ ms, m.2.Exact) : Reads codec.read (.object ms) ⟨.ofPairs ms⟩ := by
  intro lim cs rest hw
  obtain ⟨d, body, hd, hskip, hread⟩ := Written.freeObject hw fun m hm => reads_value (h m hm)
  have hmembers : Codec.members.read lim cs = .ok (.ofPairs ms, rest) := by
    simp only [Codec.members, hskip, enter, hd]
    exact hread
  simp only [codec, hmembers, Scan.as]

theorem restores {s : Submission} (h : ∀ m ∈ s.toList, m.2.Exact) : codec.Restores s s := by
  have hread := reads_object h
  rwa [toList, Object.ofPairs_eq_mk s.values.distinct] at hread

end Submission

namespace Outcome

theorem restores {o : Outcome} (h : ∀ s, o.data = some s → ∀ m ∈ s.toList, m.2.Exact) : record.codec.Restores o o := by
  refine Rebuilds.restores ?_ (by decide)
  obtain ⟨success, errors, data⟩ := o
  have herrors : (Codec.list .text).Restores errors (errors.map id) := Codec.restores_list fun s _ => Codec.restores_text s
  rw [List.map_id] at herrors
  refine .ofRequired (Codec.restores_bool success) (.ofRequired herrors ?_)
  cases data with
  | none => exact .absent rfl rfl (.nil _)
  | some s =>
    have hdata : (Codec.optional Submission.codec).Restores (some s) (some s) :=
      Codec.restores_some (Submission.restores (h s rfl)) nofun
    refine .written rfl (fun lim cs rest hw => ?_) (.nil _)
    simp only [Member.of, hdata lim cs rest hw, Scan.as]

/-- An outcome opens one bracket more than the submission that it carries, and two for its errors. -/
theorem depth_write_le {o : Outcome} {n : Nat} (hn : 1 ≤ n) (h : ∀ s, o.data = some s → (Value.object s.toList).depth ≤ n) :
    (record.codec.write o).depth ≤ n + 1 := by
  refine Record.depth_write_le fun m hm => ?_
  simp only [record, List.mem_cons, List.not_mem_nil, or_false] at hm
  rcases hm with rfl | rfl | rfl
  · rintro v ⟨⟩
    exact Nat.zero_le n
  · rintro v ⟨⟩
    exact Nat.le_trans (Codec.depth_write_list_le fun _ _ => Nat.le_refl 0) hn
  · intro v hv
    obtain ⟨s, hs, rfl⟩ := Option.map_eq_some_iff.1 hv
    exact h s hs

/-- What is written of an outcome is read back as it was, if a text keeps the submission that it carries and this does not open more
brackets than one less than a text may. -/
theorem ofText_pretty {o : Outcome} (hexact : ∀ s, o.data = some s → ∀ m ∈ s.toList, m.2.Exact)
    (hdepth : ∀ s, o.data = some s → (Value.object s.toList).depth ≤ 126) {ws : String} (hws : ∀ c ∈ ws.toList, isSpace c = true) :
    record.codec.ofText (record.codec.pretty o ++ ws) = .ok o := by
  have hread := Reads.readText_append (restores hexact) (depth_write_le (by decide) hdepth) Layout.spaced_pretty hws
  rwa [String.ofList_append, String.ofList_toList] at hread

end Outcome

end Webform
