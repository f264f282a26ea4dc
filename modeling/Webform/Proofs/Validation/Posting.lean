import Webform.Proofs.Json.Written
import Webform.Proofs.Validation.Dependence

/-!
# Values that are posted as text

A page submits text alone, while a program may submit numbers and truth values. For validation it is the same: a number or a truth
value is blank no more than the string of its text, and that string has the same text (`Posted`). So it changes neither whether a
submission is accepted nor what is said about it (`Form.validate_posted`).
-/

namespace Webform

open Json

/-- The second value is the first as it is posted: instead of a value that has a text there may be the string of it, on any level of
lists and objects. -/
inductive Posted : Value → Value → Prop
  | same (v : Value) : Posted v v
  | text {v : Value} {t : String} : TextForm v t → Posted v (.string t)
  | array {vs ws : List Value} : List.Forall₂ Posted vs ws → Posted (.array vs) (.array ws)
  | object {ms ns : Members} :
      ms.map (·.1) = ns.map (·.1) → List.Forall₂ Posted (ms.map (·.2)) (ns.map (·.2)) → Posted (.object ms) (.object ns)

/-! ## Texts of values -/

theorem Text.isBlankChar_eq_false_of_isDigit {c : Char} (h : isDigit c = true) : isBlankChar c = false := by
  simp only [isDigit, Bool.and_eq_true, decide_eq_true_eq, Char.le_def, UInt32.le_iff_toNat_le] at h
  have hcode : 48 ≤ c.toNat ∧ c.toNat ≤ 57 := h
  simp only [isBlankChar, Bool.or_eq_false_iff, Bool.and_eq_false_iff, decide_eq_false_iff_not, beq_eq_false_iff_ne]
  omega

/-- A text that a value stands for is not blank: a number starts with a digit or a minus sign. -/
theorem Text.isBlank_eq_false_of_textForm {v : Value} {t : String} (h : TextForm v t) : isBlank t = false := by
  rw [isBlank_eq_false_iff]
  cases h with
  | string t ht => exact ht
  | number n =>
    obtain ⟨c, cs, hcs, hc⟩ := n.exists_head_toList
    refine ⟨c, by simp [hcs], ?_⟩
    rcases hc with rfl | hc
    · rfl
    · exact isBlankChar_eq_false_of_isDigit hc
  | true => exact ⟨'t', by decide, rfl⟩
  | false => exact ⟨'f', by decide, rfl⟩

namespace Submission

variable {v w : Value}

theorem isBlankValue_eq_false_of_textForm {t : String} (h : TextForm v t) : isBlankValue v = false := by
  cases h with
  | string t ht => exact (Text.isBlank_eq_false_iff t).2 ht
  | number n => rfl
  | true => rfl
  | false => rfl

theorem textOfValue?_eq_of_textForm {t : String} (h : TextForm v t) : textOfValue? v = some t := by
  cases h <;> rfl

/-- A list or an object that is posted has as many entries as before, so it is empty exactly if it was. -/
theorem isBlankValue_posted (h : Posted v w) : isBlankValue v = isBlankValue w := by
  cases h with
  | same v => rfl
  | text ht => exact (isBlankValue_eq_false_of_textForm ht).trans (Text.isBlank_eq_false_of_textForm ht).symm
  | array hvs => cases hvs <;> rfl
  | @object ms ns hkeys _ => cases ms <;> cases ns <;> simp_all [isBlankValue]

theorem textOfValue?_posted (h : Posted v w) : textOfValue? v = textOfValue? w := by
  cases h with
  | same v => rfl
  | text ht => exact textOfValue?_eq_of_textForm ht
  | array _ => rfl
  | object _ _ => rfl

end Submission

/-! ## Submissions -/

/-- Members that are posted have posted values under the same keys. -/
theorem posted_object_iff {ms ns : Members} : Posted (.object ms) (.object ns) ↔
    ms.map (·.1) = ns.map (·.1) ∧ List.Forall₂ Posted (ms.map (·.2)) (ns.map (·.2)) := by
  constructor
  · intro h
    cases h with
    | same => exact ⟨rfl, List.forall₂_same.2 fun v _ => .same v⟩
    | object hkeys hvalues => exact ⟨hkeys, hvalues⟩
  · rintro ⟨hkeys, hvalues⟩
    exact .object hkeys hvalues

/-- What is found under a key is posted with the members. -/
theorem Json.Members.get?_posted {ms ns : Members} (hkeys : ms.map (·.1) = ns.map (·.1))
    (hvalues : List.Forall₂ Posted (ms.map (·.2)) (ns.map (·.2))) (key : String) : Option.Rel Posted (ms.get? key) (ns.get? key) := by
  induction ms generalizing ns with
  | nil =>
    obtain rfl : ns = [] := by simpa using hkeys.symm
    exact .none
  | cons m ms ih =>
    cases ns with
    | nil => simp at hkeys
    | cons n ns =>
      obtain ⟨hkey, hkeys⟩ := List.cons.inj hkeys
      obtain ⟨hvalue, hvalues⟩ := List.forall₂_cons.1 hvalues
      by_cases hm : m.1 = key
      · have hn : n.1 = key := hkey.symm.trans hm
        simpa [get?, hm, hn] using hvalue
      · have hn : n.1 ≠ key := fun hn => hm (hkey.trans hn)
        simpa [get?, hm, hn] using ih hkeys hvalues

namespace Submission

/-- The second submission is the first as it is posted. -/
def PostedAs (s t : Submission) : Prop := Posted (.object s.toList) (.object t.toList)

namespace PostedAs

variable {s t : Submission}

theorem get? (h : s.PostedAs t) (name : String) : Option.Rel Posted (s.get? name) (t.get? name) :=
  let ⟨hkeys, hvalues⟩ := posted_object_iff.1 h
  Members.get?_posted hkeys hvalues name

theorem isBlank_eq (h : s.PostedAs t) (name : String) : s.isBlank name = t.isBlank name := by
  have hget := h.get? name
  rw [isBlank, isBlank]
  generalize s.get? name = v, t.get? name = w at hget ⊢
  cases hget with
  | some hv => exact isBlankValue_posted hv
  | none => rfl

theorem text?_eq (h : s.PostedAs t) (name : String) : s.text? name = t.text? name := by
  have hget := h.get? name
  rw [text?, text?]
  generalize s.get? name = v, t.get? name = w at hget ⊢
  cases hget with
  | some hv => exact textOfValue?_posted hv
  | none => rfl

end PostedAs

end Submission

/-- A field has the same to say about a submission and about what is posted of it. -/
theorem Field.errors_posted {s t : Submission} (h : s.PostedAs t) (f : Field) (enforce : Bool) : f.errors enforce s = f.errors enforce t := by
  rw [errors, errors, h.isBlank_eq, h.text?_eq]

namespace Form

/-- A submission and the same with numbers and truth values posted as text are both accepted or both rejected, and the same is said
about them. -/
theorem validate_posted {s t : Submission} (h : s.PostedAs t) (enforce : Bool) (f : Form) :
    (f.validate enforce s).success = (f.validate enforce t).success ∧ (f.validate enforce s).errors = (f.validate enforce t).errors := by
  have herrors : (f.validate enforce s).errors = (f.validate enforce t).errors := by
    rw [errors_validate, errors_validate, errors, errors]
    exact List.flatMap_congr fun a _ => a.errors_posted h enforce
  refine ⟨?_, herrors⟩
  rw [success_validate, success_validate, herrors]

/-- A number that two fields look at, of which one wants a longer text and one wants digits, and a list with a truth value in it. -/
theorem validate_posted_shared :
    let long : Field := { name := "n", rules := { minLength := some 3 } }
    let digits : Field := { name := "n", kind := .email, isRequired := true, rules := { pattern := some "-?[0-9]+" } }
    let f : Form := { containers := [{ fields := [long, digits, { name := "l", isRequired := true }] }] }
    let s : Submission := .ofList [("n", .number (.integer (-7))), ("l", .array [.bool true, .object [("x", .number (.integer 5))]])]
    let t : Submission := .ofList [("n", .string "-7"), ("l", .array [.string "true", .object [("x", .string "5")]])]
    s.PostedAs t ∧ (f.validate true s).success = (f.validate true t).success ∧
      (f.validate true s).errors = (f.validate true t).errors ∧ (f.validate true t).errors = ["n must be at least 3 characters"] := by
  intro long digits f s t
  have hlist : Posted (.array [.bool true, .object [("x", .number (.integer 5))]])
      (.array [.string "true", .object [("x", .string "5")]]) :=
    .array (.cons (.text .true) (.cons (.object rfl (.cons (.text (.number (.integer 5))) .nil)) .nil))
  have hposted : s.PostedAs t := .object rfl (.cons (.text (.number (.integer (-7)))) (.cons hlist .nil))
  exact ⟨hposted, (validate_posted hposted true f).1, (validate_posted hposted true f).2, by decide +kernel⟩

end Form

end Webform
