import Webform.Form.Document
import Webform.Proofs.Json.Rewriting

/-!
# Documents as sets of members

The records of form documents set parts of their types that are independent of one another, so a document of any of them is a set of
members over defaults: its members may be rewritten in all the ways of `Record.Rewriting` (`Schema.ofText_of_rewriting`).
-/

namespace Webform

open Json Codec

/-! ## Records with independent members -/

theorem local_optional_text : Local (optional text).read := local_optional local_text

theorem ControlKind.local_codec : Local codec.read := local_text.as _

theorem FlexLayout.lawful : record.Lawful where
  optional := by decide
  isLocal := by
    simp only [record, List.forall_mem_cons]
    exact ⟨Member.local_of local_text, Member.local_of local_text, Member.local_of local_text, Member.local_of local_text,
      Member.local_of local_bool, by simp⟩
  -- Two parts of a structure are set in either order, whatever they are.
  independent := by
    simp only [record, List.pairwise_cons, List.forall_mem_cons]
    and_intros <;> first | exact Member.independent_of fun _ _ _ => rfl | simp

theorem GridLayout.lawful : record.Lawful where
  optional := by decide
  isLocal := by
    simp only [record, List.forall_mem_cons]
    exact ⟨Member.local_of local_int32, Member.local_of local_int32, Member.local_of local_text, Member.local_of local_optional_text,
      Member.local_of local_optional_text, by simp⟩
  independent := by
    simp only [record, List.pairwise_cons, List.forall_mem_cons]
    and_intros <;> first | exact Member.independent_of fun _ _ _ => rfl | simp

theorem ContainerStyle.lawful : record.Lawful where
  optional := by decide
  isLocal := by
    simp only [record, List.forall_mem_cons]
    exact ⟨Member.local_of (local_choice _ _), Member.local_of FlexLayout.lawful.local_codec,
      Member.local_of GridLayout.lawful.local_codec, Member.local_of local_optional_text, Member.local_of local_optional_text,
      Member.local_of local_optional_text, Member.local_of local_optional_text, Member.local_of local_optional_text, by simp⟩
  independent := by
    simp only [record, List.pairwise_cons, List.forall_mem_cons]
    and_intros <;> first | exact Member.independent_of fun _ _ _ => rfl | simp

theorem FieldStyle.lawful : record.Lawful where
  optional := by decide
  isLocal := by
    simp only [record, List.forall_mem_cons]
    and_intros <;> first | exact Member.local_of local_optional_text | simp
  independent := by
    simp only [record, List.pairwise_cons, List.forall_mem_cons]
    and_intros <;> first | exact Member.independent_of fun _ _ _ => rfl | simp

theorem Choice.lawful : record.Lawful where
  optional := by decide
  isLocal := by
    simp only [record, List.forall_mem_cons]
    exact ⟨Member.local_of local_nullableText, Member.local_of local_nullableText, by simp⟩
  independent := by
    simp only [record, List.pairwise_cons, List.forall_mem_cons]
    and_intros <;> first | exact Member.independent_of fun _ _ _ => rfl | simp

theorem Rules.lawful : record.Lawful where
  optional := by decide
  isLocal := by
    simp only [record, List.forall_mem_cons]
    exact ⟨Member.local_of (local_optional local_count), Member.local_of (local_optional local_count),
      Member.local_of local_optional_text, Member.local_of local_optional_text, by simp⟩
  independent := by
    simp only [record, List.pairwise_cons, List.forall_mem_cons]
    and_intros <;> first | exact Member.independent_of fun _ _ _ => rfl | simp

theorem Field.lawful : record.Lawful where
  optional := by decide
  isLocal := by
    simp only [record, List.forall_mem_cons]
    exact ⟨Member.local_of local_identifier, Member.local_of ControlKind.local_codec, Member.local_of local_nullableText,
      Member.local_of local_nullableText, Member.local_of local_nullableText, Member.local_of local_nullableText,
      Member.local_of local_optional_text, Member.local_of local_bool, Member.local_of Rules.lawful.local_codec,
      Member.local_of FieldStyle.lawful.local_codec, Member.local_of (local_list Choice.lawful.local_codec),
      Member.local_of (local_optional local_readValue), by simp⟩
  independent := by
    simp only [record, List.pairwise_cons, List.forall_mem_cons]
    and_intros <;> first | exact Member.independent_of fun _ _ _ => rfl | simp

theorem Container.lawful : record.Lawful where
  optional := by decide
  isLocal := by
    simp only [record, List.forall_mem_cons]
    exact ⟨Member.local_of local_identifier, Member.local_of (local_choice _ _),
      Member.local_of (local_list Field.lawful.local_codec), Member.local_of ContainerStyle.lawful.local_codec, by simp⟩
  independent := by
    simp only [record, List.pairwise_cons, List.forall_mem_cons]
    and_intros <;> first | exact Member.independent_of fun _ _ _ => rfl | simp

theorem Step.lawful : record.Lawful where
  optional := by decide
  isLocal := by
    simp only [record, List.forall_mem_cons]
    exact ⟨Member.local_of local_int32, Member.local_of local_nullableText,
      Member.local_of (local_list Container.lawful.local_codec), by simp⟩
  independent := by
    simp only [record, List.pairwise_cons, List.forall_mem_cons]
    and_intros <;> first | exact Member.independent_of fun _ _ _ => rfl | simp

theorem Form.lawful : record.Lawful where
  optional := by decide
  isLocal := by
    simp only [record, List.forall_mem_cons]
    exact ⟨Member.local_of local_identifier, Member.local_of local_nullableText, Member.local_of local_nullableText,
      Member.local_of (local_list Container.lawful.local_codec), Member.local_of local_bool,
      Member.local_of (local_list Step.lawful.local_codec), Member.local_of local_optional_text,
      Member.local_of local_optional_text, by simp⟩
  independent := by
    simp only [record, List.pairwise_cons, List.forall_mem_cons]
    and_intros <;> first | exact Member.independent_of fun _ _ _ => rfl | simp

/-! ## The types of documents -/

/-- The record types of form documents. -/
inductive Schema where
  | form
  | step
  | container
  | containerStyle
  | flexLayout
  | gridLayout
  | field
  | choice
  | rules
  | fieldStyle
deriving DecidableEq, Repr

namespace Schema

/-- What a document of the type is read as. -/
def Model : Schema → Type
  | form => Form
  | step => Step
  | container => Container
  | containerStyle => ContainerStyle
  | flexLayout => FlexLayout
  | gridLayout => GridLayout
  | field => Field
  | choice => Choice
  | rules => Rules
  | fieldStyle => FieldStyle

/-- How a document of the type is read. -/
def record : (s : Schema) → Record s.Model
  | form => Form.record
  | step => Step.record
  | container => Container.record
  | containerStyle => ContainerStyle.record
  | flexLayout => FlexLayout.record
  | gridLayout => GridLayout.record
  | field => Field.record
  | choice => Choice.record
  | rules => Rules.record
  | fieldStyle => FieldStyle.record

/-- The keys of the texts that are empty when they are absent or `null`. -/
def nullable : Schema → List String
  | form => ["title", "description"]
  | step => ["title"]
  | field => ["label", "name", "placeholder", "tooltip"]
  | choice => ["value", "text"]
  | _ => []

theorem lawful : (s : Schema) → s.record.Lawful
  | form => Form.lawful
  | step => Step.lawful
  | container => Container.lawful
  | containerStyle => ContainerStyle.lawful
  | flexLayout => FlexLayout.lawful
  | gridLayout => GridLayout.lawful
  | field => Field.lawful
  | choice => Choice.lawful
  | rules => Rules.lawful
  | fieldStyle => FieldStyle.lawful

theorem nullable_of_mem (s : Schema) : ∀ key ∈ s.nullable, s.record.Nullable key := by
  cases s <;> simp only [nullable, List.forall_mem_cons, List.not_mem_nil, false_imp_iff, implies_true, and_true]
  · exact ⟨⟨_, _, rfl, rfl⟩, ⟨_, _, rfl, rfl⟩⟩
  · exact ⟨_, _, rfl, rfl⟩
  · exact ⟨⟨_, _, rfl, rfl⟩, ⟨_, _, rfl, rfl⟩, ⟨_, _, rfl, rfl⟩, ⟨_, _, rfl, rfl⟩⟩
  · exact ⟨⟨_, _, rfl, rfl⟩, ⟨_, _, rfl, rfl⟩⟩

/-- A document of any type is a set of members over defaults. When one is accepted, so is every text that is valid and differs in one
of these ways, with the same value: the members stand in another order; a member is there or not whose key is none of the type's, its
value being any that is JSON; a member is there or not whose value is read as the default; a text that is nullable is `null`, empty
or absent. -/
theorem ofText_of_rewriting (s : Schema) {t u : ObjectText} (ht : t.Valid) (hu : u.Valid)
    (hr : s.record.Rewriting s.nullable t.entries u.entries) {a : s.Model} (ha : s.record.codec.ofText t.text = .ok a) :
    s.record.codec.ofText u.text = .ok a := s.lawful.ofText_rewritten s.nullable_of_mem ht hu hr ha

/-- A form with a member that is ignored although its value, half of a surrogate pair, could not be read. -/
theorem ofText_of_rewriting_unread_value :
    let title : EntryText := ⟨"\"title\":".toList, [], "\"A\"".toList, []⟩
    let extra : EntryText := ⟨"\"x\":".toList, [], "\"\\ud800\"".toList, []⟩
    let t : ObjectText := ⟨[], [], [title], []⟩
    let u : ObjectText := ⟨[], [], [title, extra], []⟩
    t.Valid ∧ u.Valid ∧ form.record.Rewriting form.nullable t.entries u.entries ∧
      Form.ofText t.text = .ok { title := "A" } ∧ Form.ofText u.text = .ok { title := "A" } := by
  intro title extra t u
  have htitle : title.Names "title" := EntryText.names_of_plain (by decide) rfl
  have hextra : extra.Names "x" := EntryText.names_of_plain (by decide) rfl
  have hvalue : IsValue title.value := .string (u := ['A']) (.plain (by decide) (by decide) (by decide) .nil)
  have hunread : IsValue extra.value := .string (u := ['\\', 'u', 'd', '8', '0', '0']) (.hex (n := 0xD800) (by decide) .nil)
  have ht : t.Valid := ObjectText.valid_single (htitle.fits .nil .nil) hvalue
  have hu : u.Valid := ⟨.nil, .nil, by simpa [u] using ⟨htitle.fits .nil .nil, hextra.fits .nil .nil⟩,
    by simpa [u] using ⟨hvalue, hunread⟩, .nil⟩
  have hr : form.record.Rewriting form.nullable ([title] ++ []) ([title] ++ [extra]) := .addIgnored hextra (by decide)
  have htext : t.text = "\x7b\"title\":\"A\"\x7d" := by rfl
  have hread : Form.ofText t.text = .ok { title := "A" } := by
    rw [htext]
    rfl
  exact ⟨ht, hu, hr, hread, ofText_of_rewriting form ht hu hr hread⟩

/-- A gap of `"0"` may be added to the document of a grid, or left out. -/
example : GridLayout.record.ReadsDefault ⟨"\"gap\":".toList, [], "\"0\"".toList, []⟩ := by
  change GridLayout.record.codec.ofText "\x7b\"gap\":\"0\"\x7d" = .ok {}
  rfl

/-- The key of an ignored member has to be a text too: a valid member whose key is half of a surrogate pair, so that it is none of the
record's keys, makes a form that is accepted without it one that is refused. -/
theorem ofText_of_unnamed_member_false :
    ¬∀ (s : Schema) (t u : ObjectText) (e : EntryText), t.Valid → u.Valid → u.entries = t.entries ++ [e] →
      (∀ key ∈ s.record.keys, ¬e.Names key) →
        ∀ a, s.record.codec.ofText t.text = .ok a → s.record.codec.ofText u.text = .ok a := by
  intro h
  let e : EntryText := ⟨"\"\\ud800\":".toList, [], ['n', 'u', 'l', 'l'], []⟩
  have hbody : IsStringBody ['\\', 'u', 'd', '8', '0', '0'] := .hex (n := 0xD800) (by decide) .nil
  have hspelled : e.Spelled ['\\', 'u', 'd', '8', '0', '0'] := ⟨[], [], .nil, .nil, rfl⟩
  have hu : (ObjectText.single e).Valid := ObjectText.valid_single ⟨⟨_, hspelled, hbody⟩, .nil, .nil⟩ .null
  have hunnamed : ∀ key ∈ form.record.keys, ¬e.Names key := by
    rintro key - ⟨u, hu, hkey⟩
    obtain rfl := hu.eq hspelled hkey.isStringBody hbody
    have hnumber : hexFour? 'd' '8' '0' '0' = some 0xD800 := by decide
    generalize key.toList = s at hkey
    obtain _ | ⟨-, hslash, -⟩ | ⟨hsimple, -⟩ | ⟨hn, hrange, -⟩ := hkey
    · exact hslash rfl
    · cases hsimple
    · rw [hnumber, Option.some.injEq] at hn
      omega
  have hread : Form.ofText "\x7b\x7d" = .ok {} := by rfl
  have hrefused : (Form.ofText "\x7b\"\\ud800\":null\x7d").toOption.isNone = true := by decide +kernel
  have htext : (ObjectText.single e).text = "\x7b\"\\ud800\":null\x7d" := by rfl
  suffices haccepted : Form.ofText (ObjectText.single e).text = .ok {} by
    rw [htext] at haccepted
    rw [haccepted] at hrefused
    cases hrefused
  exact h form ⟨[], [], [], []⟩ (ObjectText.single e) e ⟨.nil, .nil, by simp, by simp, .nil⟩ hu rfl hunnamed {} hread

end Schema

end Webform
