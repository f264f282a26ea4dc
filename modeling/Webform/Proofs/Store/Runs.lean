import Webform.Store

/-!
# Runs of a store

A store is called again and again. Whatever it is called, it answers as a map would in which each form stands under the identifier
that it was written under: what it answers can be told from the writes before (`Store.Told`), and the writes can be told from the
calls and their answers (`Store.written`). `Store.run_ofList` says this of every run.
-/

namespace Webform

namespace Store

/-! ## Calls and runs -/

/-- What a store can be called. A new form comes with the identifier that is drawn for it. -/
inductive Call where
  | create (fresh : Identifier) (f : Form)
  | update (f : Form)
  | get (id : Identifier)
  | list
  | size
  | submit (enforce : Bool) (id : Identifier) (data : Submission)

/-- What a store answers. -/
inductive Answer where
  | kept (f : Form)
  | refused (e : StoreError)
  | found (f : Option Form)
  | forms (fs : List Form)
  | count (n : Nat)
  | outcome (o : Outcome)

/-- The answer to a call, and the store after it. -/
def step (s : Store) : Call → Answer × Store
  | .create fresh f => (.kept (s.create fresh f).1, (s.create fresh f).2)
  | .update f =>
    match s.update f with
    | .ok (g, t) => (.kept g, t)
    | .error e => (.refused e, s)
  | .get id => (.found (s.get? id), s)
  | .list => (.forms s.toList, s)
  | .size => (.count s.size, s)
  | .submit enforce id data => (.outcome (s.submit enforce id data), s)

/-- The answers to calls, and the store after them. -/
def run (s : Store) : List Call → List Answer × Store
  | [] => ([], s)
  | c :: cs => ((s.step c).1 :: ((s.step c).2.run cs).1, ((s.step c).2.run cs).2)

/-! ## What has been written -/

/-- What a call has written, told from the call and from whether it was turned down. -/
def Call.writes : Call → Answer → List Entry
  | .create fresh f, .kept _ => [⟨fresh, { f with id := fresh }⟩]
  | .update f, .kept _ => [⟨f.id, f⟩]
  | _, _ => []

/-- What has been written when a store was made of forms and then called. -/
def written (fs : List Form) (cs : List Call) (as : List Answer) : List Entry :=
  fs.map (fun f => ⟨f.id, f⟩) ++ (cs.zip as).flatMap fun p => p.1.writes p.2

/-- The form that was written last under an identifier. -/
def lastWritten (ws : List Entry) (id : Identifier) : Option Form := (ws.reverse.find? fun w => w.key = id).map (·.form)

/-- The forms that are there after writes, by ascending identifier. -/
structure Lists (ws : List Entry) (fs : List Form) : Prop where
  ascending : fs.Pairwise fun f g => f.id < g.id
  mem_iff : ∀ f, f ∈ fs ↔ ∃ id, lastWritten ws id = some f

/-- What a call is answered after writes. -/
inductive Told (ws : List Entry) : Call → Answer → Prop
  | create (fresh : Identifier) (f : Form) : Told ws (.create fresh f) (.kept { f with id := fresh })
  | update (f g : Form) : lastWritten ws f.id = some g → Told ws (.update f) (.kept f)
  | updateMissing (f : Form) : lastWritten ws f.id = none → Told ws (.update f) (.refused (.notFound f.id))
  | get (id : Identifier) : Told ws (.get id) (.found (lastWritten ws id))
  | list (fs : List Form) : Lists ws fs → Told ws .list (.forms fs)
  | size (fs : List Form) : Lists ws fs → Told ws .size (.count fs.length)
  | submit (enforce : Bool) (id : Identifier) (data : Submission) (f : Form) : lastWritten ws id = some f →
      Told ws (.submit enforce id data) (.outcome (f.validate enforce data))
  | submitMissing (enforce : Bool) (id : Identifier) (data : Submission) : lastWritten ws id = none →
      Told ws (.submit enforce id data) (.outcome .formNotFound)

theorem lastWritten_append (ws : List Entry) (w : Entry) (id : Identifier) :
    lastWritten (ws ++ [w]) id = if id = w.key then some w.form else lastWritten ws id := by
  unfold lastWritten
  rw [List.reverse_append, List.reverse_singleton, List.singleton_append, List.find?_cons]
  split <;> simp_all [eq_comm]

/-- What was written under own identifiers is found under them. -/
theorem id_of_lastWritten {ws : List Entry} (h : ∀ w ∈ ws, w.form.id = w.key) {id : Identifier} {f : Form}
    (hf : lastWritten ws id = some f) : f.id = id := by
  obtain ⟨w, hw, rfl⟩ := Option.map_eq_some_iff.1 hf
  have hkey : w.key = id := by simpa using List.find?_some hw
  rw [h w (List.mem_reverse.1 (List.mem_of_find?_eq_some hw)), hkey]

end Store

/-! ## An entry at its place -/

theorem Identifier.lt_irrefl (id : Identifier) : ¬id < id := Nat.lt_irrefl _

namespace Store

theorem find?_insertEntry (e : Entry) (id : Identifier) (es : List Entry) :
    (insertEntry e es).find? (fun x => x.key = id) = if id = e.key then some e else es.find? fun x => x.key = id := by
  induction es with
  | nil =>
    rw [insertEntry, List.find?_cons]
    split <;> simp_all [eq_comm]
  | cons x xs ih =>
    unfold insertEntry
    split
    · rw [List.find?_cons]
      split <;> simp_all [eq_comm]
    · split
      · rename_i heq
        rw [List.find?_cons, List.find?_cons, heq]
        split <;> simp_all [eq_comm]
      · rename_i hne
        rw [List.find?_cons, List.find?_cons, ih]
        split
        · rename_i hx
          have hid : id ≠ e.key := by
            rintro rfl
            exact hne (by simpa [eq_comm] using hx)
          rw [if_neg hid]
        · rfl

theorem find?_writeEntry (key : Identifier) (f : Form) (id : Identifier) (es : List Entry) :
    (writeEntry key f es).find? (fun x => x.key = id) =
      (es.find? fun x => x.key = id).map fun e => if e.key = key then { e with form := f } else e := by
  have hkey : ∀ e : Entry, (if e.key = key then { e with form := f } else e).key = e.key := by
    intro e
    split <;> rfl
  rw [writeEntry, List.find?_map]
  congr 2
  funext e
  simp [hkey]

/-- Among ascending entries the one with a key is found. -/
theorem find?_eq_some_iff_of_ascending {es : List Entry} (h : Ascending es) (id : Identifier) (e : Entry) :
    es.find? (fun x => x.key = id) = some e ↔ e ∈ es ∧ e.key = id := by
  induction es with
  | nil => simp
  | cons x xs ih =>
    obtain ⟨hx, hxs⟩ := List.pairwise_cons.1 h
    rw [List.find?_cons]
    split
    · rename_i hid
      have hid : x.key = id := by simpa using hid
      constructor
      · rintro ⟨⟩
        exact ⟨List.mem_cons_self, hid⟩
      · rintro ⟨he, heid⟩
        rcases List.mem_cons.1 he with rfl | he
        · rfl
        · have hlt := hx e he
          rw [hid, heid] at hlt
          exact absurd hlt id.lt_irrefl
    · rename_i hid
      have hid : x.key ≠ id := by simpa using hid
      rw [ih hxs]
      constructor
      · rintro ⟨he, heid⟩
        exact ⟨List.mem_cons_of_mem x he, heid⟩
      · rintro ⟨he, heid⟩
        rcases List.mem_cons.1 he with rfl | he
        · exact absurd heid hid
        · exact ⟨he, heid⟩

/-- An entry whose key is new is one more. -/
theorem length_insertEntry_of_new {e : Entry} {es : List Entry} (h : ∀ x ∈ es, x.key ≠ e.key) :
    (insertEntry e es).length = es.length + 1 := by
  induction es with
  | nil => rfl
  | cons x xs ih =>
    have hx := h x List.mem_cons_self
    unfold insertEntry
    split
    · rfl
    · rw [if_neg (Ne.symm hx), List.length_cons, ih fun y hy => h y (List.mem_cons_of_mem x hy), List.length_cons]

variable {s : Store}

/-! ## One call -/

theorem get?_insert (s : Store) (key : Identifier) (f : Form) (id : Identifier) :
    (s.insert key f).get? id = if id = key then some f else s.get? id := by
  rw [get?, insert, find?_insertEntry]
  split <;> rfl

theorem get?_write_of_some {key : Identifier} {g : Form} (h : s.get? key = some g) (f : Form) (id : Identifier) :
    (s.write key f).get? id = if id = key then some f else s.get? id := by
  rw [get?, write, find?_writeEntry, Option.map_map]
  split
  · rename_i hid
    obtain ⟨e, he, -⟩ := Option.map_eq_some_iff.1 h
    have hkey : e.key = key := by simpa using List.find?_some he
    simp [hid, he, hkey]
  · rename_i hid
    refine Option.map_congr fun e he => ?_
    have hkey : e.key = id := by simpa using List.find?_some he
    rw [Function.comp, hkey, if_neg hid]

theorem get?_eq_some_iff (s : Store) (id : Identifier) (f : Form) : s.get? id = some f ↔ ⟨id, f⟩ ∈ s.entries := by
  rw [get?, Option.map_eq_some_iff]
  constructor
  · rintro ⟨e, he, rfl⟩
    obtain ⟨hmem, rfl⟩ := (find?_eq_some_iff_of_ascending s.ascending id e).1 he
    exact hmem
  · intro h
    exact ⟨⟨id, f⟩, (find?_eq_some_iff_of_ascending s.ascending id ⟨id, f⟩).2 ⟨h, rfl⟩, rfl⟩

theorem mem_toList_iff (s : Store) (f : Form) : f ∈ s.toList ↔ ∃ id, s.get? id = some f := by
  rw [toList, List.mem_map]
  constructor
  · rintro ⟨e, he, rfl⟩
    exact ⟨e.key, (s.get?_eq_some_iff e.key e.form).2 he⟩
  · rintro ⟨id, hid⟩
    exact ⟨⟨id, f⟩, (s.get?_eq_some_iff id f).1 hid, rfl⟩

theorem length_toList (s : Store) : s.toList.length = s.size := List.length_map _

theorem size_insert_of_none {key : Identifier} (h : s.get? key = none) (f : Form) : (s.insert key f).size = s.size + 1 :=
  length_insertEntry_of_new (e := ⟨key, f⟩) (by simpa [get?] using h)

theorem size_write (s : Store) (key : Identifier) (f : Form) : (s.write key f).size = s.size := List.length_map _

theorem step_update_of_some {f g : Form} (h : s.get? f.id = some g) : s.step (.update f) = (.kept f, s.write f.id f) := by
  simp [step, update, h]

theorem step_update_of_none {f : Form} (h : s.get? f.id = none) : s.step (.update f) = (.refused (.notFound f.id), s) := by
  simp [step, update, h]

/-- A call leaves the store as it was or puts one form under its own identifier; which form, can be told from the call and its
answer. -/
theorem step_cases (s : Store) (c : Call) :
    (c.writes (s.step c).1 = [] ∧ (s.step c).2 = s) ∨
      ∃ f, c.writes (s.step c).1 = [⟨f.id, f⟩] ∧ ∀ id, (s.step c).2.get? id = if id = f.id then some f else s.get? id := by
  cases c with
  | create fresh f => exact Or.inr ⟨{ f with id := fresh }, rfl, fun id => s.get?_insert fresh _ id⟩
  | update f =>
    cases h : s.get? f.id with
    | none =>
      rw [step_update_of_none h]
      exact Or.inl ⟨rfl, rfl⟩
    | some g =>
      rw [step_update_of_some h]
      exact Or.inr ⟨f, rfl, fun id => get?_write_of_some h f id⟩
  | get id => exact Or.inl ⟨rfl, rfl⟩
  | list => exact Or.inl ⟨rfl, rfl⟩
  | size => exact Or.inl ⟨rfl, rfl⟩
  | submit enforce id data => exact Or.inl ⟨rfl, rfl⟩

/-! ## Stores and what has been written -/

/-- What is found in the store is what was written last, and all that was written is written under own identifiers. -/
structure Tracks (s : Store) (ws : List Entry) : Prop where
  last : ∀ id, s.get? id = lastWritten ws id
  own : ∀ w ∈ ws, w.form.id = w.key

theorem Tracks.put {t : Store} {ws : List Entry} (h : s.Tracks ws) {f : Form}
    (ht : ∀ id, t.get? id = if id = f.id then some f else s.get? id) : t.Tracks (ws ++ [⟨f.id, f⟩]) where
  last id := by rw [ht, lastWritten_append, h.last id]
  own w hw := by
    rcases List.mem_append.1 hw with hw | hw
    · exact h.own w hw
    · rw [List.mem_singleton.1 hw]

theorem Tracks.foldl {ws : List Entry} (h : s.Tracks ws) (fs : List Form) :
    (fs.foldl (fun s f => s.insert f.id f) s).Tracks (ws ++ fs.map fun f => ⟨f.id, f⟩) := by
  induction fs generalizing s ws with
  | nil => simpa using h
  | cons f fs ih => simpa using ih (h.put (s.get?_insert f.id f))

theorem tracks_ofList (fs : List Form) : (ofList fs).Tracks (fs.map fun f => ⟨f.id, f⟩) :=
  @Tracks.foldl empty [] ⟨fun _ => rfl, by simp⟩ fs

theorem Tracks.step {ws : List Entry} (h : s.Tracks ws) (c : Call) : (s.step c).2.Tracks (ws ++ c.writes (s.step c).1) := by
  rcases s.step_cases c with ⟨hw, hs⟩ | ⟨f, hw, hs⟩
  · rw [hw, hs, List.append_nil]
    exact h
  · rw [hw]
    exact h.put hs

theorem Tracks.run {ws : List Entry} (h : s.Tracks ws) (cs : List Call) :
    (s.run cs).2.Tracks (ws ++ (cs.zip (s.run cs).1).flatMap fun p => p.1.writes p.2) := by
  induction cs generalizing s ws with
  | nil => simpa [Store.run] using h
  | cons c cs ih => simpa [Store.run] using ih (h.step c)

/-- The key of an entry is the identifier of its form. -/
theorem Tracks.key_eq {ws : List Entry} (h : s.Tracks ws) {e : Entry} (he : e ∈ s.entries) : e.form.id = e.key := by
  have hfound : s.get? e.key = some e.form := (s.get?_eq_some_iff e.key e.form).2 he
  rw [h.last] at hfound
  exact id_of_lastWritten h.own hfound

theorem Tracks.ascending_toList {ws : List Entry} (h : s.Tracks ws) : s.toList.Pairwise fun f g => f.id < g.id := by
  refine List.pairwise_map.2 (s.ascending.imp_of_mem fun ha hb hlt => ?_)
  rw [h.key_eq ha, h.key_eq hb]
  exact hlt

/-- The list of a store is that of the forms that were written last. -/
theorem Tracks.lists {ws : List Entry} (h : s.Tracks ws) : Lists ws s.toList where
  ascending := h.ascending_toList
  mem_iff f := by simp only [s.mem_toList_iff, h.last]

/-- A store answers a call as what has been written tells. -/
theorem Tracks.told {ws : List Entry} (h : s.Tracks ws) (c : Call) : Told ws c (s.step c).1 := by
  cases c with
  | create fresh f => exact .create fresh f
  | update f =>
    cases hf : s.get? f.id with
    | none =>
      rw [step_update_of_none hf]
      exact .updateMissing f (h.last f.id ▸ hf)
    | some g =>
      rw [step_update_of_some hf]
      exact .update f g (h.last f.id ▸ hf)
  | get id =>
    have hget : Told ws (.get id) _ := .get id
    rw [← h.last id] at hget
    exact hget
  | list => exact .list s.toList h.lists
  | size =>
    have hsize := Told.size s.toList h.lists
    rw [length_toList] at hsize
    exact hsize
  | submit enforce id data =>
    simp only [Store.step, Store.submit]
    cases hid : s.get? id with
    | none => exact .submitMissing enforce id data (h.last id ▸ hid)
    | some f => exact .submit enforce id data f (h.last id ▸ hid)

theorem run_append (s : Store) (cs ds : List Call) :
    s.run (cs ++ ds) = ((s.run cs).1 ++ ((s.run cs).2.run ds).1, ((s.run cs).2.run ds).2) := by
  induction cs generalizing s with
  | nil => rfl
  | cons c cs ih => simp [run, ih]

theorem length_run (s : Store) (cs : List Call) : (s.run cs).1.length = cs.length := by
  induction cs generalizing s with
  | nil => rfl
  | cons c cs ih => simp [run, ih]

/-! ## What holds after every run -/

/-- The store holds what has been written, each form under its own identifier; its list has these forms by ascending identifier,
each once, and its size is the length of the list. -/
structure Holds (s : Store) (ws : List Entry) : Prop where
  own : ∀ e ∈ s.entries, e.form.id = e.key
  ascending : s.toList.Pairwise fun f g => f.id < g.id
  nodup : (s.toList.map (·.id)).Nodup
  mem_iff : ∀ f, f ∈ s.toList ↔ ∃ id, s.get? id = some f
  size_eq : s.size = s.toList.length
  last : ∀ id, s.get? id = lastWritten ws id

theorem Tracks.holds {ws : List Entry} (h : s.Tracks ws) : s.Holds ws where
  own e he := h.key_eq he
  ascending := h.ascending_toList
  nodup := by
    refine List.pairwise_map.2 (h.ascending_toList.imp fun {f g} hlt heq => ?_)
    rw [heq] at hlt
    exact g.id.lt_irrefl hlt
  mem_iff := s.mem_toList_iff
  size_eq := s.length_toList.symm
  last := h.last

/-- What calls change: an update of a form that is not there leaves no trace in later answers, one of a form that is there changes
what is found under its identifier and nothing else, a new form under a new identifier is one more, and no form is ever lost. -/
structure ChangesLocally (s : Store) : Prop where
  refused : ∀ f, s.get? f.id = none → ∀ later,
    s.run (.update f :: later) = (.refused (.notFound f.id) :: (s.run later).1, (s.run later).2)
  updated : ∀ f g, s.get? f.id = some g → (s.step (.update f)).1 = .kept f ∧ (s.step (.update f)).2.size = s.size ∧
    ∀ id, (s.step (.update f)).2.get? id = if id = f.id then some f else s.get? id
  created : ∀ fresh f, s.get? fresh = none → (s.step (.create fresh f)).1 = .kept { f with id := fresh } ∧
    (s.step (.create fresh f)).2.size = s.size + 1 ∧
    ∀ id, (s.step (.create fresh f)).2.get? id = if id = fresh then some { f with id := fresh } else s.get? id
  kept : ∀ id f, s.get? id = some f → ∀ later, ∃ g, (s.run later).2.get? id = some g

/-- What is there stays there, be it as it was or in a later form. -/
theorem exists_get?_step {id : Identifier} {f : Form} (h : s.get? id = some f) (c : Call) :
    ∃ g, (s.step c).2.get? id = some g := by
  rcases s.step_cases c with ⟨-, hs⟩ | ⟨g, -, hs⟩
  · exact ⟨f, by rw [hs, h]⟩
  · rw [hs]
    split
    · exact ⟨g, rfl⟩
    · exact ⟨f, h⟩

theorem exists_get?_run {id : Identifier} {f : Form} (h : s.get? id = some f) (cs : List Call) :
    ∃ g, (s.run cs).2.get? id = some g := by
  induction cs generalizing s f with
  | nil => exact ⟨f, h⟩
  | cons c cs ih =>
    obtain ⟨g, hg⟩ := exists_get?_step h c
    exact ih hg

theorem changesLocally (s : Store) : s.ChangesLocally where
  refused f hf later := by
    rw [run, step_update_of_none hf]
  updated f g hf := by
    rw [step_update_of_some hf]
    exact ⟨rfl, s.size_write f.id f, fun id => get?_write_of_some hf f id⟩
  created fresh f hfresh := ⟨rfl, size_insert_of_none hfresh _, fun id => s.get?_insert fresh _ id⟩
  kept id f hf later := exists_get?_run hf later

/-- Of what has been written by a run, the part that its first calls have written is told by these calls alone. -/
theorem written_of_append (fs : List Form) (s : Store) (cs ds : List Call) :
    written fs cs (s.run (cs ++ ds)).1 = written fs cs (s.run cs).1 := by
  have hzip : cs.zip ((s.run cs).1 ++ ((s.run cs).2.run ds).1) = cs.zip (s.run cs).1 := by
    have h : (cs ++ []).zip ((s.run cs).1 ++ ((s.run cs).2.run ds).1) =
        cs.zip (s.run cs).1 ++ [].zip ((s.run cs).2.run ds).1 := List.zip_append (s.length_run cs).symm
    simpa using h
  rw [written, written, run_append, hzip]

/-- A store that is made of forms and then called answers each call as the writes before it tell. After any calls it holds what has
been written, and what further calls change is as local as it can be. -/
theorem run_ofList (fs : List Form) (cs : List Call) :
    (∀ before c after, cs = before ++ c :: after →
      ∃ a, ((ofList fs).run cs).1[before.length]? = some a ∧ Told (written fs before ((ofList fs).run cs).1) c a) ∧
    ((ofList fs).run cs).2.Holds (written fs cs ((ofList fs).run cs).1) ∧
    ((ofList fs).run cs).2.ChangesLocally := by
  refine ⟨?_, ((tracks_ofList fs).run cs).holds, changesLocally _⟩
  rintro before c after rfl
  refine ⟨(((ofList fs).run before).2.step c).1, ?_, ?_⟩
  · rw [run_append, List.getElem?_append_right (Nat.le_of_eq (length_run _ _)), length_run, Nat.sub_self]
    rfl
  · rw [written_of_append]
    exact ((tracks_ofList fs).run before).told c

/-- A store of two forms with one identifier, which is asked for a form that is not there, updated and given a new form: the later
of the two forms is found, and in the end there are two forms. -/
theorem run_ofList_later_form :
    let early : Form := { id := .ofNat 1, title := "early" }
    let late : Form := { id := .ofNat 1, title := "late" }
    let s := (ofList [early, late]).run [.update { id := .ofNat 2 }, .get (.ofNat 1)]
    s.1[1]? = some (.found (some late)) ∧ s.2.get? (.ofNat 3) = none ∧ (s.2.step (.create (.ofNat 3) early)).2.size = 2 := by
  intro early late s
  obtain ⟨htold, -, hlocal⟩ := run_ofList [early, late] [.update { id := .ofNat 2 }, .get (.ofNat 1)]
  obtain ⟨a, ha, hget⟩ := htold [.update { id := .ofNat 2 }] (.get (.ofNat 1)) [] rfl
  have hnew : s.2.get? (.ofNat 3) = none := rfl
  refine ⟨?_, hnew, (hlocal.created (.ofNat 3) early hnew).2.1⟩
  cases hget
  exact ha

end Store

end Webform
