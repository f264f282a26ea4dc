import Mathlib.Data.List.Forall2
import Mathlib.Data.List.Sort
import Webform.Proofs.Validation.Dependence

/-!
# What each field has to say

The messages about a submission are those of the fields, one field after another. `Field.Contributes` tells what a field adds to them:
that it is required, or the message of its rules, or a message for each rule that is broken, or nothing. Without rules enforced only
the first of these is left, so the messages about missing values are the same in both ways of validating and stand in the same order
(`Form.errors_by_field`).
-/

namespace Webform

open Json

/-! ## Broken rules -/

/-- A rule that a text breaks. -/
inductive Breach where
  | tooShort (least : UInt64)
  | tooLong (largest : UInt64)
  | misfit
deriving DecidableEq, Repr

namespace Breach

/-- What is said of a broken rule, for a field that messages call by the given name. -/
def message (name : String) : Breach → String
  | tooShort least => name ++ " must be at least " ++ toString least.toNat ++ " characters"
  | tooLong largest => name ++ " must be at most " ++ toString largest.toNat ++ " characters"
  | misfit => name ++ " is not in the expected format"

/-- The place of a broken rule among others: the least length, the largest, the pattern. -/
def rank : Breach → Nat
  | tooShort _ => 0
  | tooLong _ => 1
  | misfit => 2

theorem rank_lt (b : Breach) : b.rank < 3 := by
  cases b <;> simp [rank]

end Breach

namespace Rules

/-- The rules that a text breaks. A pattern that does not compile for whole texts is not broken by any. -/
inductive Breaks (r : Rules) (t : String) : Breach → Prop
  | tooShort {n : UInt64} : r.minLength = some n → t.length < n.toNat → Breaks r t (.tooShort n)
  | tooLong {n : UInt64} : r.maxLength = some n → n.toNat < t.length → Breaks r t (.tooLong n)
  | misfit {p : String} {e : Pattern.Expr} : r.pattern = some p → p ≠ "" → Pattern.compileFull? p.toList = some e →
      e.search t.toList = false → Breaks r t .misfit

/-- All rules that a text breaks, each once and in their order. -/
structure Broken (r : Rules) (t : String) (bs : List Breach) : Prop where
  mem_iff : ∀ b, b ∈ bs ↔ r.Breaks t b
  ordered : bs.Pairwise fun b c => b.rank < c.rank

variable {r : Rules} {t : String} {bs : List Breach}

/-- A text is allowed when it breaks no rule. -/
theorem allows_iff_not_breaks : r.Allows t ↔ ∀ b, ¬r.Breaks t b := by
  constructor
  · rintro h b (⟨hn, hlt⟩ | ⟨hn, hlt⟩ | ⟨hp, hne, he, hsearch⟩)
    · exact absurd (h.long _ hn) (Nat.not_le_of_lt hlt)
    · exact absurd (h.short _ hn) (Nat.not_le_of_lt hlt)
    · rw [h.fits _ hp hne _ he] at hsearch
      cases hsearch
  · intro h
    refine ⟨?_, ?_, ?_⟩
    · intro n hn
      exact Nat.le_of_not_lt fun hlt => h _ (.tooShort hn hlt)
    · intro n hn
      exact Nat.le_of_not_lt fun hlt => h _ (.tooLong hn hlt)
    · intro p hp hne e he
      exact Bool.of_not_eq_false fun hsearch => h _ (.misfit hp hne he hsearch)

namespace Broken

theorem eq_nil_iff (h : r.Broken t bs) : bs = [] ↔ r.Allows t := by
  rw [allows_iff_not_breaks, List.eq_nil_iff_forall_not_mem]
  exact forall_congr' fun b => not_congr (h.mem_iff b)

/-- The rules that a text breaks can be put down in one way only. -/
theorem unique {cs : List Breach} (h : r.Broken t bs) (h' : r.Broken t cs) : bs = cs := by
  have : Std.Irrefl fun b c : Breach => b.rank < c.rank := ⟨fun _ => Nat.lt_irrefl _⟩
  have : Std.Antisymm fun b c : Breach => b.rank < c.rank := ⟨fun _ _ hlt hgt => absurd hgt (Nat.lt_asymm hlt)⟩
  exact h.ordered.eq_of_mem_iff h'.ordered fun b => (h.mem_iff b).trans (h'.mem_iff b).symm

/-- A text breaks three rules at most. -/
theorem length_le (h : r.Broken t bs) : bs.length ≤ 3 := by
  have hnodup : (bs.map Breach.rank).Nodup := List.pairwise_map.2 (h.ordered.imp Nat.ne_of_lt)
  have hrange : bs.map Breach.rank ⊆ List.range 3 := by
    intro n hn
    obtain ⟨b, -, rfl⟩ := List.mem_map.1 hn
    exact List.mem_range.2 b.rank_lt
  simpa using (List.subperm_of_subset hnodup hrange).length_le

end Broken

/-- The rules that a text breaks, as they are gone through. -/
def breaches (r : Rules) (t : String) : List Breach :=
  (r.minLength.toList.filter fun n => t.length < n.toNat).map .tooShort ++
    (r.maxLength.toList.filter fun n => n.toNat < t.length).map .tooLong ++
    (r.pattern.toList.filter fun p => p ≠ "" ∧ !Pattern.passes p t).map fun _ => .misfit

theorem mem_breaches_iff (r : Rules) (t : String) (b : Breach) : b ∈ r.breaches t ↔ r.Breaks t b := by
  have hfails : ∀ p, Pattern.passes p t = false ↔ ∃ e, Pattern.compileFull? p.toList = some e ∧ e.search t.toList = false := by
    intro p
    rw [← Bool.not_eq_true, passes_eq_true_iff]
    simp
  simp only [breaches, List.mem_append, List.mem_map, List.mem_filter, Option.mem_toList]
  constructor
  · rintro ((⟨n, ⟨hn, hlt⟩, rfl⟩ | ⟨n, ⟨hn, hlt⟩, rfl⟩) | ⟨p, ⟨hp, hfit⟩, rfl⟩)
    · exact .tooShort hn (by simpa using hlt)
    · exact .tooLong hn (by simpa using hlt)
    · obtain ⟨hne, hpasses⟩ : p ≠ "" ∧ Pattern.passes p t = false := by simpa using hfit
      obtain ⟨e, he, hsearch⟩ := (hfails p).1 hpasses
      exact .misfit hp hne he hsearch
  · rintro (⟨hn, hlt⟩ | ⟨hn, hlt⟩ | ⟨hp, hne, he, hsearch⟩)
    · exact Or.inl (Or.inl ⟨_, ⟨hn, by simpa using hlt⟩, rfl⟩)
    · exact Or.inl (Or.inr ⟨_, ⟨hn, by simpa using hlt⟩, rfl⟩)
    · have hpasses := (hfails _).2 ⟨_, he, hsearch⟩
      exact Or.inr ⟨_, ⟨hp, by simp [hne, hpasses]⟩, rfl⟩

theorem broken_breaches (r : Rules) (t : String) : r.Broken t (r.breaches t) := by
  refine ⟨r.mem_breaches_iff t, ?_⟩
  have hone : ∀ {α : Type} (o : Option α) (q : α → Bool) (f : α → Breach),
      ((o.toList.filter q).map f).Pairwise fun b c => b.rank < c.rank := by
    intro α o q f
    cases o with
    | none => exact .nil
    | some a => cases h : q a <;> simp [h]
  refine List.pairwise_append.2 ⟨List.pairwise_append.2 ⟨hone _ _ _, hone _ _ _, ?_⟩, hone _ _ _, ?_⟩
  · intro b hb c hc
    obtain ⟨n, -, rfl⟩ := List.mem_map.1 hb
    obtain ⟨m, -, rfl⟩ := List.mem_map.1 hc
    exact Nat.zero_lt_one
  · intro b hb c hc
    obtain ⟨p, -, rfl⟩ := List.mem_map.1 hc
    rcases List.mem_append.1 hb with hb | hb
    · obtain ⟨n, -, rfl⟩ := List.mem_map.1 hb
      exact Nat.zero_lt_two
    · obtain ⟨n, -, rfl⟩ := List.mem_map.1 hb
      exact Nat.one_lt_two

/-- There is a problem for each rule that is broken. -/
theorem problems_eq (r : Rules) (name t : String) : r.problems name t = (r.breaches t).map (Breach.message name) := by
  simp only [problems, breaches, List.map_append]
  congr 2
  · cases r.minLength with
    | none => rfl
    | some n => by_cases h : t.length < n.toNat <;> simp [h, Breach.message]
  · cases r.maxLength with
    | none => rfl
    | some n => by_cases h : n.toNat < t.length <;> simp [h, Breach.message]
  · cases r.pattern with
    | none => rfl
    | some p =>
      rw [Option.toList_some]
      by_cases h : p ≠ "" ∧ !Pattern.passes p t
      · rw [List.filter_cons_of_pos (by simpa using h)]
        exact if_pos h
      · rw [List.filter_cons_of_neg (by simpa using h)]
        exact if_neg h

end Rules

/-! ## Contributions -/

/-- Values stand for one text at most. -/
theorem TextForm.unique {v : Value} {t u : String} (ht : TextForm v t) (hu : TextForm v u) : t = u := by
  cases ht <;> cases hu <;> rfl

theorem TextForm.provides {s : Submission} {name : String} {v : Value} {t : String} (hv : s.get? name = some v) (ht : TextForm v t) :
    s.Provides name := by
  rw [← s.isBlank_eq_false_iff, ← Bool.not_eq_true]
  intro h
  exact Submission.not_textForm_of_isBlank h hv t ht

instance (s : Submission) (name : String) : Decidable (s.Provides name) :=
  decidable_of_iff (s.isBlank name = false) (s.isBlank_eq_false_iff name)

namespace Field

/-- The text that the rules of a field are put to: the field takes free text, and its value stands for this one. -/
structure Judges (f : Field) (s : Submission) (t : String) : Prop where
  kind : f.kind = .text ∨ f.kind = .email ∨ f.kind = .textarea
  value : ∃ v, s.get? f.name = some v ∧ TextForm v t

/-- What a field adds to the messages about a submission. -/
inductive Contributes (f : Field) (s : Submission) : List String → Prop
  | missing : f.isRequired = true → ¬s.Provides f.name → Contributes f s [f.displayName ++ " is required"]
  | ownMessage {t m : String} : f.Judges s t → ¬f.rules.Allows t → f.rules.errorMessage = some m → Text.isBlank m = false →
      Contributes f s [m]
  | generated {t : String} {bs : List Breach} : f.Judges s t → f.rules.Broken t bs → bs ≠ [] →
      (∀ m, f.rules.errorMessage = some m → Text.isBlank m = true) → Contributes f s (bs.map (Breach.message f.displayName))
  | nothing : f.Satisfied true s → Contributes f s []

variable {f : Field} {s : Submission} {t : String}

theorem Judges.provides (h : f.Judges s t) : s.Provides f.name := by
  obtain ⟨v, hv, ht⟩ := h.value
  exact ht.provides hv

theorem Judges.unique {u : String} (h : f.Judges s t) (h' : f.Judges s u) : t = u := by
  obtain ⟨v, hv, ht⟩ := h.value
  obtain ⟨w, hw, hu⟩ := h'.value
  rw [hv] at hw
  cases hw
  exact ht.unique hu

theorem Judges.allows (h : f.Judges s t) (hf : f.Satisfied true s) : f.rules.Allows t := by
  obtain ⟨v, hv, ht⟩ := h.value
  exact hf.allowed rfl h.kind v t hv ht

/-- What is said when the rules of a field are put to a text. -/
theorem Judges.contributes (h : f.Judges s t) (hnil : f.rules.report (f.rules.problems f.displayName t) ≠ []) :
    f.Contributes s (f.rules.report (f.rules.problems f.displayName t)) := by
  have hbroken := f.rules.broken_breaches t
  rw [ne_eq, Rules.report_eq_nil_iff] at hnil
  have hnot : ¬f.rules.Allows t := by
    intro hallows
    exact hnil ((f.rules.problems_eq_nil_iff _ t).2 hallows)
  have hgenerated : (∀ m, f.rules.errorMessage = some m → Text.isBlank m = true) →
      f.Contributes s (f.rules.problems f.displayName t) := by
    intro hnone
    rw [Rules.problems_eq]
    exact .generated h hbroken (fun hbs => hnot (hbroken.eq_nil_iff.1 hbs)) hnone
  unfold Rules.report
  split
  · rename_i hnone
    exact absurd hnone hnil
  · split
    · rename_i m hm
      split
      · rename_i hblank
        apply hgenerated
        intro m' hm'
        rw [hm] at hm'
        exact Option.some.inj hm' ▸ hblank
      · rename_i hblank
        exact .ownMessage h hnot hm (by simpa using hblank)
    · rename_i hm
      apply hgenerated
      intro m' hm'
      rw [hm] at hm'
      cases hm'

/-- Something is wrong with the value of a field only when it is missing although it is required, or when its text is judged. -/
theorem errors_cases (h : f.errors true s ≠ []) :
    (f.isRequired = true ∧ ¬s.Provides f.name ∧ f.errors true s = [f.displayName ++ " is required"]) ∨
      ∃ t, f.Judges s t ∧ f.errors true s = f.rules.report (f.rules.problems f.displayName t) := by
  unfold errors at h ⊢
  rw [← s.isBlank_eq_false_iff]
  cases hblank : s.isBlank f.name with
  | true =>
    rw [hblank, if_pos rfl] at h
    by_cases hrequired : f.isRequired = true
    · exact Or.inl ⟨hrequired, Bool.noConfusion, by simp [hrequired]⟩
    · exact absurd (if_neg hrequired) h
  | false =>
    rw [hblank, if_neg Bool.false_ne_true] at h
    by_cases hskip : (!true || !f.kind.isTextual || f.rules.isEmpty) = true
    · exact absurd (if_pos hskip) h
    · rw [if_neg hskip] at h
      rw [if_neg Bool.false_ne_true, if_neg hskip]
      cases ht : s.text? f.name with
      | none => simp [ht] at h
      | some t =>
        have htextual : f.kind.isTextual = true := by
          simp only [Bool.not_true, Bool.false_or, Bool.or_eq_true, Bool.not_eq_true', not_or, Bool.not_eq_false] at hskip
          exact hskip.1
        exact Or.inr ⟨t, ⟨(ControlKind.isTextual_iff f.kind).1 htextual, (Submission.text?_eq_some_iff hblank t).1 ht⟩, rfl⟩

/-- What is said about the value of a field is a contribution of it. -/
theorem contributes_errors (f : Field) (s : Submission) : f.Contributes s (f.errors true s) := by
  by_cases hnil : f.errors true s = []
  · rw [hnil]
    exact .nothing ((f.errors_eq_nil_iff true s).1 hnil)
  · rcases errors_cases hnil with ⟨hrequired, hno, herrors⟩ | ⟨t, hjudges, herrors⟩
    · rw [herrors]
      exact .missing hrequired hno
    · rw [herrors] at hnil ⊢
      exact hjudges.contributes hnil

/-- A field has one thing to say about a submission. -/
theorem Contributes.unique {part part' : List String} (h : f.Contributes s part) (h' : f.Contributes s part') : part = part' := by
  cases h with
  | missing hrequired hno =>
    cases h' with
    | missing => rfl
    | ownMessage hj => exact absurd hj.provides hno
    | generated hj => exact absurd hj.provides hno
    | nothing hf => exact absurd (hf.provided hrequired) hno
  | ownMessage hj hnot hm hblank =>
    cases h' with
    | missing _ hno => exact absurd hj.provides hno
    | ownMessage _ _ hm' =>
      rw [hm] at hm'
      rw [Option.some.inj hm']
    | generated _ _ _ hnone => simp [hnone _ hm] at hblank
    | nothing hf => exact absurd (hj.allows hf) hnot
  | generated hj hbroken hne hnone =>
    cases h' with
    | missing _ hno => exact absurd hj.provides hno
    | ownMessage _ _ hm hblank => simp [hnone _ hm] at hblank
    | generated hj' hbroken' =>
      obtain rfl := hj.unique hj'
      rw [hbroken.unique hbroken']
    | nothing hf => exact absurd (hbroken.eq_nil_iff.2 (hj.allows hf)) hne
  | nothing hf =>
    cases h' with
    | missing hrequired hno => exact absurd (hf.provided hrequired) hno
    | ownMessage hj hnot => exact absurd (hj.allows hf) hnot
    | generated hj hbroken hne => exact absurd (hbroken.eq_nil_iff.2 (hj.allows hf)) hne
    | nothing => rfl

theorem contributes_iff (f : Field) (s : Submission) (part : List String) : f.Contributes s part ↔ part = f.errors true s := by
  constructor
  · intro h
    exact h.unique (f.contributes_errors s)
  · rintro rfl
    exact f.contributes_errors s

theorem Contributes.length_le {part : List String} (h : f.Contributes s part) : part.length ≤ 3 := by
  cases h with
  | missing => simp
  | ownMessage => simp
  | generated _ hbroken => simpa using hbroken.length_le
  | nothing => simp

/-- Without rules enforced a field only says that it is required. -/
theorem errors_false (f : Field) (s : Submission) :
    f.errors false s = if f.isRequired ∧ ¬s.Provides f.name then [f.displayName ++ " is required"] else [] := by
  simp only [← s.isBlank_eq_false_iff]
  unfold errors
  cases s.isBlank f.name <;> simp

/-- What a field says without rules enforced it says with rules enforced too. -/
theorem errors_false_sublist (f : Field) (s : Submission) : (f.errors false s).Sublist (f.errors true s) := by
  rw [errors_false]
  split
  · rename_i h
    have hmissing := Contributes.missing (f := f) (s := s) h.1 h.2
    rw [(f.contributes_iff s _).1 hmissing]
  · exact List.nil_sublist _

end Field

/-! ## Forms -/

namespace Form

/-- The required fields for which a submission has no value, in order. -/
def missing (f : Form) (s : Submission) : List Field :=
  (f.containers.flatMap (·.fields)).filter fun g => g.isRequired ∧ ¬s.Provides g.name

theorem errors_false (f : Form) (s : Submission) :
    f.errors false s = (f.missing s).map fun g => g.displayName ++ " is required" := by
  unfold errors missing fields
  induction f.containers.flatMap (·.fields) with
  | nil => rfl
  | cons g gs ih =>
    rw [List.flatMap_cons, ih, g.errors_false, List.filter_cons]
    by_cases h : g.isRequired ∧ ¬s.Provides g.name
    · simp [h]
    · rw [if_neg h, if_neg (by simpa using h), List.nil_append]

theorem errors_false_sublist (f : Form) (s : Submission) : (f.errors false s).Sublist (f.errors true s) := by
  unfold errors
  induction f.fields with
  | nil => exact List.Sublist.refl _
  | cons g gs ih =>
    rw [List.flatMap_cons, List.flatMap_cons]
    exact (g.errors_false_sublist s).append ih

/-- Without rules enforced there is one message for each required field without a value, in the order of the fields of the form's own
containers. They stand in this order among the messages with rules enforced, which are what the fields contribute, one field after
another. -/
theorem errors_by_field (f : Form) (s : Submission) :
    (f.validate false s).errors = (f.missing s).map (fun g => g.displayName ++ " is required") ∧
      (f.validate false s).errors.length = (f.containers.flatMap (·.fields)).countP (fun g => g.isRequired ∧ ¬s.Provides g.name) ∧
      (f.validate false s).errors.Sublist (f.validate true s).errors ∧
      ∃ parts : List (List String), (f.validate true s).errors = parts.flatten ∧
        List.Forall₂ (fun g part => g.Contributes s part ∧ part.length ≤ 3) (f.containers.flatMap (·.fields)) parts := by
  rw [errors_validate, errors_validate]
  refine ⟨f.errors_false s, ?_, f.errors_false_sublist s, f.fields.map (·.errors true s), ?_, ?_⟩
  · rw [errors_false, List.length_map, missing, List.countP_eq_length_filter]
  · rw [errors, List.flatMap_def]
  · rw [fields, List.forall₂_map_right_iff, List.forall₂_same]
    exact fun g _ => ⟨g.contributes_errors s, (g.contributes_errors s).length_le⟩

end Form

end Webform
