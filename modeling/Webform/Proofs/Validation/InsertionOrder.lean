import Webform.Proofs.Json.Meaning
import Webform.Proofs.Validation.OutcomeText

/-!
# Submissions as maps in order of insertion

A submission is made by inserting pairs one after another, of a list of them, of members with distinct names, or by reading the text
of an object. All of these make the same submission of the same pairs (`Submission.ofList_insertionOrder`), and what is written of a
submission is read back in the same order on every level.
-/

namespace Webform

open Json

namespace Submission

/-- The submission is made of the empty one by inserting the pairs one after another. -/
inductive Inserted : List (String × Value) → Submission → Prop where
  | empty : Inserted [] .empty
  | insert {pairs : List (String × Value)} {s : Submission} (name : String) (v : Value) :
      Inserted pairs s → Inserted (pairs ++ [(name, v)]) (s.insert name v)

/-- The submission has each name of the pairs once, in order of first occurrence and with its last value, and what is asked of it
agrees with the list of its names and values. -/
structure IsMapOf (s : Submission) (pairs : List (String × Value)) : Prop where
  collects : Members.Collects pairs s.toList
  get : ∀ name v, s.get? name = some v ↔ (name, v) ∈ s.toList
  contains : ∀ name, s.contains name = true ↔ name ∈ s.toList.map (·.1)
  size : s.size = s.toList.length

/-! ## Pairs inserted one after another -/

/-- A submission is filled as its object is. -/
theorem ofList_eq (pairs : List (String × Value)) : ofList pairs = ⟨.ofPairs pairs⟩ :=
  List.foldl_hom Submission.mk fun _ _ => rfl

theorem ofList_snoc (pairs : List (String × Value)) (name : String) (v : Value) :
    ofList (pairs ++ [(name, v)]) = (ofList pairs).insert name v := by
  rw [ofList, List.foldl_append]
  rfl

theorem inserted_iff (pairs : List (String × Value)) (s : Submission) : Inserted pairs s ↔ s = ofList pairs := by
  constructor
  · intro h
    induction h with
    | empty => rfl
    | insert name v _ ih => rw [ofList_snoc, ih]
  · rintro rfl
    induction pairs using List.reverseRecOn with
    | nil => exact .empty
    | append_singleton pairs p ih =>
      rw [ofList_snoc]
      exact ih.insert p.1 p.2

theorem isMapOf_ofList (pairs : List (String × Value)) : (ofList pairs).IsMapOf pairs := by
  have hcollects : Members.Collects pairs (ofList pairs).toList := by
    rw [ofList_eq]
    exact Object.collects_ofPairs pairs
  exact ⟨hcollects, fun name v => Members.get?_eq_some_iff (ofList pairs).values.distinct, fun name => Members.isSome_get?_iff, rfl⟩

/-! ## Texts -/

theorem local_codec : Local codec.read := Codec.local_members.as Submission.mk

theorem gives_codec {d : Nat} {u : List Char} {o : Object} (h : Gives readValue d u (.object o.members)) :
    Gives codec.read d u ⟨o⟩ :=
  Scan.as_eq_ok_iff.2 ⟨o, Codec.read_members_eq_ok_iff.2 h, rfl⟩

/-- The text of an object is read as its members inserted in order. -/
theorem ofText_of_lists {t : ObjectText} {pairs : List (String × Value)} (h : t.Lists pairs) :
    ofText t.text = .ok (ofList pairs) := by
  have hmeans := h.means
  rw [ofList_eq]
  exact (local_codec.ofText_iff h.before hmeans.isValue h.after _).2 (gives_codec hmeans.gives)

/-- The written text of an object in which a name may be repeated. -/
theorem ofText_object {pairs : List (String × Value)} (hkeyed : ∀ p ∈ pairs, p.2.Keyed) (hintegral : ∀ p ∈ pairs, p.2.Integral)
    (hdepth : (Value.object pairs).depth ≤ 127) {layout : Layout} (hl : layout.Spaced) :
    ofText (.ofList ((Value.object pairs).toList layout 0)) = .ok (ofList pairs) := by
  have hreads : Reads codec.read (.object pairs) (ofList pairs) := by
    rw [ofList_eq]
    exact reads_object fun p hp => (hkeyed p hp).exact (hintegral p hp)
  exact hreads.readText hdepth hl

/-- What is written of a submission is read back. -/
theorem ofText_written {s : Submission} (hkeyed : ∀ m ∈ s.toList, m.2.Keyed) (hintegral : ∀ m ∈ s.toList, m.2.Integral)
    (hdepth : (Value.object s.toList).depth ≤ 127) {layout : Layout} (hl : layout.Spaced) :
    ofText (.ofList ((codec.write s).toList layout 0)) = .ok s :=
  (restores fun m hm => (hkeyed m hm).exact (hintegral m hm)).ofText hdepth hl

/-- Inserting pairs, filling a submission with a list of them and reading the text of an object with them as its members all make
the same submission, which is the map of the pairs; members with distinct names are that submission themselves. What is written of a
submission is read back as it was. -/
theorem ofList_insertionOrder :
    (∀ pairs : List (String × Value), (ofList pairs).IsMapOf pairs ∧ (∀ s, Inserted pairs s ↔ s = ofList pairs) ∧
      (∀ distinct : (pairs.map (·.1)).Nodup, ofList pairs = ⟨pairs, distinct⟩) ∧
      (∀ t : ObjectText, t.Lists pairs → ofText t.text = .ok (ofList pairs)) ∧
      ((∀ p ∈ pairs, p.2.Keyed) → (∀ p ∈ pairs, p.2.Integral) → (Value.object pairs).depth ≤ 127 → ∀ layout, layout.Spaced →
        ofText (.ofList ((Value.object pairs).toList layout 0)) = .ok (ofList pairs))) ∧
    ∀ s : Submission, (∀ m ∈ s.toList, m.2.Keyed) → (∀ m ∈ s.toList, m.2.Integral) → (Value.object s.toList).depth ≤ 127 →
      ofText (codec.compact s) = .ok s ∧ ofText (codec.pretty s) = .ok s := by
  refine ⟨fun pairs => ⟨isMapOf_ofList pairs, inserted_iff pairs, fun hnodup => ?_, fun t ht => ofText_of_lists ht,
    fun hkeyed hintegral hdepth layout hl => ofText_object hkeyed hintegral hdepth hl⟩, fun s hkeyed hintegral hdepth => ⟨?_, ?_⟩⟩
  · rw [ofList_eq, Object.ofPairs_eq_mk hnodup]
  · exact ofText_written hkeyed hintegral hdepth Layout.spaced_compact
  · exact ofText_written hkeyed hintegral hdepth Layout.spaced_pretty

/-- The text of an object with blanks in it that repeats a name, once with an escape, and in which a value repeats a key. -/
theorem ofList_insertionOrder_repeated :
    let inner : List EntryText := [⟨['"', 'k', '"', ':'], [], ['1'], []⟩, ⟨['"', 'k', '"', ':'], [' '], ['-', '2'], []⟩]
    let t : ObjectText := {
      before := ['\n']
      gap := []
      entries := [
        ⟨['"', 'b', '"', ' ', ':'], [' '], ['"', 'x', '"'], []⟩,
        ⟨[' ', '"', 'a', '"', ':'], [], ['n', 'u', 'l', 'l'], [' ']⟩,
        ⟨['"', '\\', 'u', '0', '0', '6', '2', '"', ':'], [], Bracket.object.around [' '] inner, []⟩]
      after := [' '] }
    let v : Value := .object [("k", .number (.integer (-2)))]
    let pairs : List (String × Value) := [("b", .string "x"), ("a", .null), ("b", v)]
    let s : Submission := ⟨[("b", v), ("a", .null)], by decide⟩
    t.Lists pairs ∧ ofText t.text = .ok (ofList pairs) ∧ ofList pairs = s ∧
      ofText (.ofList ((Value.object pairs).toList .compact 0)) = .ok s ∧ ofText (codec.pretty s) = .ok s := by
  intro inner t v pairs s
  have hblank {ws : List Char} (h : ws.all isSpace = true) : IsBlank ws := List.all_eq_true.1 h
  have hx : Spells ['x'] ['x'] := .plain (by decide) (by decide) (by decide) .nil
  have ha : Spells ['a'] "a".toList := .plain (by decide) (by decide) (by decide) .nil
  have hb : Spells ['b'] "b".toList := .plain (by decide) (by decide) (by decide) .nil
  have hescaped : Spells ['\\', 'u', '0', '0', '6', '2'] "b".toList := .hex (n := 0x62) (by decide) (by decide) .nil
  have hkey : Spells ['k'] "k".toList := .plain (by decide) (by decide) (by decide) .nil
  have hone : Means 125 ['1'] (.number (.integer 1)) := .integer 125 (i := 1) (by decide)
  have hdigits : integerToList (-2) = ['-', '2'] := by decide
  have htwo : Means 125 ['-', '2'] (.number (.integer (-2))) := hdigits ▸ .integer 125 (by decide)
  have hinner : Means 126 (Bracket.object.around [' '] inner)
      (.object (Object.ofPairs [("k", .number (.integer 1)), ("k", .number (.integer (-2)))]).members) := by
    refine .ofPairs (hblank rfl) ?_
    refine .cons ⟨⟨⟨_, ⟨[], [], .nil, .nil, rfl⟩, hkey⟩, .nil, .nil⟩, hone⟩ ?_
    exact .cons ⟨⟨⟨_, ⟨[], [], .nil, .nil, rfl⟩, hkey⟩, hblank rfl, .nil⟩, htwo⟩ .nil
  have hlists : t.Lists pairs := by
    refine ⟨hblank rfl, .nil, ?_, hblank rfl⟩
    refine .cons ⟨⟨⟨_, ⟨[], [' '], .nil, hblank rfl, rfl⟩, hb⟩, hblank rfl, .nil⟩, .string _ hx⟩ ?_
    refine .cons ⟨⟨⟨_, ⟨[' '], [], hblank rfl, .nil, rfl⟩, ha⟩, .nil, hblank rfl⟩, .null _⟩ ?_
    exact .cons ⟨⟨⟨_, ⟨[], [], .nil, .nil, rfl⟩, hescaped⟩, .nil, .nil⟩, hinner⟩ .nil
  have hmap : ofList pairs = s := rfl
  have hkeyed : v.Keyed := .object (by decide) (List.forall_mem_singleton.2 (.number _))
  have hintegral : v.Integral := .object (List.forall_mem_singleton.2 (.integer (i := -2) (by decide)))
  obtain ⟨hpairs, hwritten⟩ := ofList_insertionOrder
  obtain ⟨-, -, -, htext, hobject⟩ := hpairs pairs
  refine ⟨hlists, htext t hlists, hmap, ?_, ?_⟩
  · refine hobject ?_ ?_ (by decide) .compact Layout.spaced_compact
    · exact List.forall_mem_cons.2 ⟨.string _, List.forall_mem_cons.2 ⟨.null, List.forall_mem_singleton.2 hkeyed⟩⟩
    · exact List.forall_mem_cons.2 ⟨.string _, List.forall_mem_cons.2 ⟨.null, List.forall_mem_singleton.2 hintegral⟩⟩
  · refine (hwritten s ?_ ?_ (by decide)).2
    · exact List.forall_mem_cons.2 ⟨hkeyed, List.forall_mem_singleton.2 .null⟩
    · exact List.forall_mem_cons.2 ⟨hintegral, List.forall_mem_singleton.2 .null⟩

end Submission

end Webform
