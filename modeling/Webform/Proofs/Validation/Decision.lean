import Webform.Store

/-!
# What a submission has to satisfy

A submission is accepted exactly when each field of the form's own containers is `Satisfied` by it, and what comes out is of one
of two shapes (`Outcome.Shaped`). `Field.errors` decides on a value through several early exits; each of them is looked at once
here, and together they neither drop a demand nor make one.
-/

namespace Webform

open Json

/-! ## Values that are provided -/

/-- The value of a name is there and is not `null`, a string of blanks, an empty list or an empty object. -/
def Submission.Provides (s : Submission) (name : String) : Prop :=
  ∃ v, s.get? name = some v ∧ v ≠ .null ∧ (∀ t, v = .string t → ∃ c ∈ t.toList, Text.isBlankChar c = false) ∧ v ≠ .array [] ∧
    v ≠ .object []

/-- The text that a value stands for: a string that is not blank, a number as it is written, or the word for a truth value. -/
inductive TextForm : Value → String → Prop
  | string (t : String) : (∃ c ∈ t.toList, Text.isBlankChar c = false) → TextForm (.string t) t
  | number (n : Number) : TextForm (.number n) (.ofList n.toList)
  | true : TextForm (.bool .true) "true"
  | false : TextForm (.bool .false) "false"

theorem Text.isBlank_eq_false_iff (t : String) : Text.isBlank t = false ↔ ∃ c ∈ t.toList, Text.isBlankChar c = false := by
  rw [isBlank, ← Bool.not_eq_true, List.all_eq_true]
  simp

namespace Submission

/-- A name is not blank exactly when its value is provided. -/
theorem isBlank_eq_false_iff (s : Submission) (name : String) : s.isBlank name = false ↔ s.Provides name := by
  unfold isBlank Provides
  cases s.get? name with
  | none => simp
  | some v => cases v <;> simp [isBlankValue, Text.isBlank_eq_false_iff]

/-- The text of a value that is not blank. -/
theorem text?_eq_some_iff {s : Submission} {name : String} (h : s.isBlank name = false) (t : String) :
    s.text? name = some t ↔ ∃ v, s.get? name = some v ∧ TextForm v t := by
  unfold isBlank at h
  unfold text?
  cases hv : s.get? name with
  | none => simp
  | some v =>
    rw [hv] at h
    simp only [Option.bind_some, Option.some.injEq, exists_eq_left']
    cases v with
    | string u =>
      have hu := (Text.isBlank_eq_false_iff u).1 h
      constructor
      · intro htext
        exact Option.some.inj htext ▸ .string u hu
      · rintro ⟨⟩
        rfl
    | number n =>
      constructor
      · intro htext
        exact Option.some.inj htext ▸ .number n
      · rintro ⟨⟩
        rfl
    | bool b =>
      constructor
      · intro htext
        cases b <;> cases htext <;> constructor
      · rintro ⟨⟩ <;> rfl
    | null | array | object =>
      constructor
      · intro htext
        cases htext
      · rintro ⟨⟩

/-- A blank value has no text that rules could be about. -/
theorem not_textForm_of_isBlank {s : Submission} {name : String} (h : s.isBlank name = true) {v : Value}
    (hv : s.get? name = some v) (t : String) : ¬TextForm v t := by
  unfold isBlank at h
  rw [hv] at h
  rintro (⟨_, ht⟩ | _ | _ | _)
  · rw [← Text.isBlank_eq_false_iff] at ht
    simp [isBlankValue, ht] at h
  all_goals simp [isBlankValue] at h

end Submission

/-! ## Rules that a text satisfies -/

/-- The text is as long as it has to be and no longer than it may be, and the pattern matches it, if there is a pattern for whole
texts. -/
structure Rules.Allows (r : Rules) (t : String) : Prop where
  long : ∀ n, r.minLength = some n → n.toNat ≤ t.length
  short : ∀ n, r.maxLength = some n → t.length ≤ n.toNat
  fits : ∀ p, r.pattern = some p → p ≠ "" → ∀ e, Pattern.compileFull? p.toList = some e → e.search t.toList = true

namespace Rules

/-- A text passes a pattern exactly when what the pattern compiles to, if anything, matches it. -/
theorem passes_eq_true_iff (p t : String) :
    Pattern.passes p t = true ↔ ∀ e, Pattern.compileFull? p.toList = some e → e.search t.toList = true := by
  unfold Pattern.passes
  split <;> simp_all

/-- There are no problems exactly with the texts that the rules allow. -/
theorem problems_eq_nil_iff (r : Rules) (name t : String) : r.problems name t = [] ↔ r.Allows t := by
  simp only [problems, List.append_eq_nil_iff]
  constructor
  · rintro ⟨⟨hmin, hmax⟩, hpattern⟩
    refine ⟨fun n hn => ?_, fun n hn => ?_, fun p hp hne => ?_⟩
    · rw [hn] at hmin
      simpa using hmin
    · rw [hn] at hmax
      simpa using hmax
    · rw [hp] at hpattern
      rw [← passes_eq_true_iff]
      simpa [hne] using hpattern
  · intro h
    refine ⟨⟨?_, ?_⟩, ?_⟩
    · cases hn : r.minLength with
      | none => rfl
      | some n => simpa using h.long n hn
    · cases hn : r.maxLength with
      | none => rfl
      | some n => simpa using h.short n hn
    · cases hp : r.pattern with
      | none => rfl
      | some p =>
        have hpass : p ≠ "" → Pattern.passes p t = true := fun hne => (passes_eq_true_iff p t).2 (h.fits p hp hne)
        simpa using hpass

/-- A message of the rules' own replaces problems and never makes or hides them. -/
theorem report_eq_nil_iff (r : Rules) (problems : List String) : r.report problems = [] ↔ problems = [] := by
  unfold report
  split
  · simp
  · split
    · split <;> simp_all
    · simp_all

/-- Where there is neither a bound nor a pattern, every text is allowed. -/
theorem allows_of_isEmpty {r : Rules} (h : r.isEmpty = true) (t : String) : r.Allows t := by
  simp only [isEmpty, Bool.and_eq_true, Option.isNone_iff_eq_none] at h
  obtain ⟨⟨hmin, hmax⟩, hpattern⟩ := h
  exact ⟨by simp [hmin], by simp [hmax], by simp [hpattern]⟩

end Rules

/-! ## Fields that a submission satisfies -/

/-- What a field asks of a submission: a value, if the field is required; and, when rules are enforced and the field takes free
text, that the text of its value is allowed by the rules. -/
structure Field.Satisfied (enforce : Bool) (f : Field) (s : Submission) : Prop where
  provided : f.isRequired = true → s.Provides f.name
  allowed : enforce = true → f.kind = .text ∨ f.kind = .email ∨ f.kind = .textarea → ∀ v t, s.get? f.name = some v → TextForm v t →
    f.rules.Allows t

theorem ControlKind.isTextual_iff (k : ControlKind) : k.isTextual = true ↔ k = .text ∨ k = .email ∨ k = .textarea := by
  cases k <;> simp [isTextual]

/-- Nothing is wrong with the value of a field exactly when the field is satisfied. -/
theorem Field.errors_eq_nil_iff (enforce : Bool) (f : Field) (s : Submission) :
    f.errors enforce s = [] ↔ f.Satisfied enforce s := by
  unfold errors
  cases hblank : s.isBlank f.name with
  | true =>
    have hno : ¬s.Provides f.name := by
      rw [← Submission.isBlank_eq_false_iff, hblank]
      simp
    have hrules : ∀ v t, s.get? f.name = some v → TextForm v t → f.rules.Allows t :=
      fun v t hv ht => absurd ht (Submission.not_textForm_of_isBlank hblank hv t)
    cases hrequired : f.isRequired with
    | true => exact ⟨fun h => by simp at h, fun h => absurd (h.provided hrequired) hno⟩
    | false => exact ⟨fun _ => ⟨fun h => by simp [hrequired] at h, fun _ _ => hrules⟩, fun _ => by simp⟩
  | false =>
    have hyes := (Submission.isBlank_eq_false_iff s f.name).1 hblank
    by_cases hskip : (!enforce || !f.kind.isTextual || f.rules.isEmpty) = true
    · -- Each of the three ways out leaves nothing to be demanded of a text.
      rw [if_neg (by simp), if_pos hskip]
      refine ⟨fun _ => ⟨fun _ => hyes, fun henforce hkind v t _ _ => ?_⟩, fun _ => rfl⟩
      rw [← ControlKind.isTextual_iff] at hkind
      rw [henforce, hkind] at hskip
      exact Rules.allows_of_isEmpty (by simpa using hskip) t
    · rw [if_neg (by simp), if_neg hskip]
      simp only [Bool.or_eq_true, Bool.not_eq_true', not_or, Bool.not_eq_false] at hskip
      obtain ⟨⟨henforce, htextual⟩, -⟩ := hskip
      have hkind := (ControlKind.isTextual_iff f.kind).1 htextual
      have htext := fun t => Submission.text?_eq_some_iff hblank t
      cases ht : s.text? f.name with
      | none =>
        refine ⟨fun _ => ⟨fun _ => hyes, fun _ _ v t hv hform => ?_⟩, fun _ => rfl⟩
        have := (htext t).2 ⟨v, hv, hform⟩
        rw [ht] at this
        cases this
      | some t =>
        obtain ⟨v, hv, hform⟩ := (htext t).1 ht
        simp only [Rules.report_eq_nil_iff, Rules.problems_eq_nil_iff]
        refine ⟨fun h => ⟨fun _ => hyes, fun _ _ v' t' hv' hform' => ?_⟩, fun h => h.allowed henforce hkind v t hv hform⟩
        have := (htext t').2 ⟨v', hv', hform'⟩
        rw [ht] at this
        exact Option.some.inj this ▸ h

/-! ## Outcomes -/

/-- The outcome of validating a submission has one of two shapes: all is well and the submission is given back as it is, or
something is said to be wrong and nothing is given back. -/
def Outcome.Shaped (o : Outcome) (s : Submission) : Prop :=
  o = ⟨true, [], some s⟩ ∨ (o.success = false ∧ o.errors ≠ [] ∧ o.data = none)

namespace Form

theorem errors_eq_nil_iff (enforce : Bool) (f : Form) (s : Submission) :
    f.errors enforce s = [] ↔ ∀ c ∈ f.containers, ∀ g ∈ c.fields, g.Satisfied enforce s := by
  simp only [errors, List.flatMap_eq_nil_iff, mem_fields, Field.errors_eq_nil_iff]
  constructor
  · intro h c hc g hg
    exact h g ⟨c, hc, hg⟩
  · rintro h g ⟨c, hc, hg⟩
    exact h c hc g hg

theorem validate_success_iff (enforce : Bool) (f : Form) (s : Submission) :
    (f.validate enforce s).success = true ↔ f.errors enforce s = [] := by
  unfold validate
  split <;> simp_all [Outcome.accepted, Outcome.rejected]

theorem validate_shaped (enforce : Bool) (f : Form) (s : Submission) : (f.validate enforce s).Shaped s := by
  unfold validate
  split
  · exact Or.inl rfl
  · rename_i h
    exact Or.inr ⟨rfl, h, rfl⟩

end Form

theorem validateFor_shaped (enforce : Bool) (f : Option Form) (s : Submission) : (validateFor enforce f s).Shaped s := by
  cases f with
  | some f => exact f.validate_shaped enforce s
  | none => exact Or.inr ⟨rfl, by simp [validateFor, Outcome.formNotFound, Outcome.rejected], rfl⟩

/-- A submission is accepted exactly when it satisfies every field of every container of the form's own. What comes out has one
of the two shapes, also when the form is looked up first, in whatever way or in a store; a form that is not found is the only
thing said to be wrong then. -/
theorem Form.validate_decides (enforce : Bool) (f : Form) (s : Submission) :
    ((f.validate enforce s).success = true ↔ ∀ c ∈ f.containers, ∀ g ∈ c.fields, g.Satisfied enforce s) ∧
      (f.validate enforce s).Shaped s ∧
      validateFor enforce (some f) s = f.validate enforce s ∧
      validateFor enforce none s = ⟨false, ["Form not found"], none⟩ ∧
      ∀ (st : Store) (id : Identifier), (st.submit enforce id s).Shaped s ∧
        (∀ g, st.get? id = some g → st.submit enforce id s = g.validate enforce s) ∧
        (st.get? id = none → st.submit enforce id s = ⟨false, ["Form not found"], none⟩) := by
  refine ⟨(f.validate_success_iff enforce s).trans (f.errors_eq_nil_iff enforce s), f.validate_shaped enforce s, rfl, rfl,
    fun st id => ⟨validateFor_shaped enforce _ s, fun g hg => ?_, fun hnone => ?_⟩⟩
  · rw [Store.submit, hg]
    rfl
  · rw [Store.submit, hnone]
    rfl

end Webform
