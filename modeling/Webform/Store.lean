import Webform.Validation

/-!
# The store of forms

A store is a map from identifiers to forms. Its entries stand by ascending key, so no key occurs twice; that is part of the type. That
the form under a key has the key for its own identifier is not part of it: it comes of the ways in which forms are put in.
`Store.create` is given the identifier of the new form, which the caller draws.
-/

namespace Webform

namespace Store

/-- A form, and the key that it is kept under. -/
structure Entry where
  key : Identifier
  form : Form
deriving Repr, Inhabited

/-- Puts an entry at its place among entries by ascending key; it takes the place of an entry with its key. -/
def insertEntry (e : Entry) : List Entry → List Entry
  | [] => [e]
  | x :: xs =>
    if e.key < x.key then e :: x :: xs
    else if e.key = x.key then e :: xs
    else x :: insertEntry e xs

/-- Writes a form into the entry with a key, if there is one. -/
def writeEntry (key : Identifier) (f : Form) (es : List Entry) : List Entry :=
  es.map fun e => if e.key = key then { e with form := f } else e

theorem eq_or_mem_of_mem_insertEntry {e x : Entry} {es : List Entry} (h : x ∈ insertEntry e es) : x = e ∨ x ∈ es := by
  induction es with
  | nil => simpa [insertEntry] using h
  | cons y ys ih =>
    unfold insertEntry at h
    split at h
    · simpa using h
    · split at h
      · simp only [List.mem_cons] at h ⊢
        rcases h with h | h
        · exact .inl h
        · exact .inr (.inr h)
      · simp only [List.mem_cons] at h ⊢
        rcases h with h | h
        · exact .inr (.inl h)
        · rcases ih h with h | h
          · exact .inl h
          · exact .inr (.inr h)

/-- By ascending key, each once. -/
def Ascending (es : List Entry) : Prop := es.Pairwise fun a b => a.key < b.key

/-- An entry that is put at its place leaves the others ascending. -/
theorem ascending_insertEntry {e : Entry} {es : List Entry} (h : Ascending es) : Ascending (insertEntry e es) := by
  induction es with
  | nil => exact List.pairwise_singleton _ _
  | cons x xs ih =>
    obtain ⟨hx, hxs⟩ := List.pairwise_cons.1 h
    unfold insertEntry
    split
    · rename_i hlt
      refine List.pairwise_cons.2 ⟨fun y hy => ?_, h⟩
      rcases List.mem_cons.1 hy with rfl | hy
      · exact hlt
      · exact Identifier.lt_trans hlt (hx y hy)
    · rename_i hlt
      split
      · rename_i heq
        exact List.pairwise_cons.2 ⟨fun y hy => heq ▸ hx y hy, hxs⟩
      · rename_i hne
        refine List.pairwise_cons.2 ⟨fun y hy => ?_, ih hxs⟩
        rcases eq_or_mem_of_mem_insertEntry hy with rfl | hy
        · exact Identifier.lt_of_not_lt hlt fun h => hne h.symm
        · exact hx y hy

/-- Writing into an entry leaves its key. -/
theorem ascending_writeEntry {key : Identifier} {f : Form} {es : List Entry} (h : Ascending es) :
    Ascending (writeEntry key f es) := by
  have hkey : ∀ e : Entry, (if e.key = key then { e with form := f } else e).key = e.key := by
    intro e
    split <;> rfl
  refine List.pairwise_map.2 (h.imp fun hlt => ?_)
  rw [hkey, hkey]
  exact hlt

end Store

/-- Forms by identifier. -/
structure Store where
  entries : List Store.Entry := []
  ascending : Store.Ascending entries := by exact List.Pairwise.nil

/-- Why a store does not do what it is asked. -/
inductive StoreError where
  | notFound (id : Identifier)
deriving DecidableEq, Repr

def StoreError.message : StoreError → String
  | notFound id => "Form not found: " ++ id.toString

namespace Store

def empty : Store := {}

/-- Keeps a form under a key, in place of what was kept there. -/
def insert (s : Store) (key : Identifier) (f : Form) : Store := ⟨insertEntry ⟨key, f⟩ s.entries, ascending_insertEntry s.ascending⟩

/-- Writes a form over the one that is kept under a key, if there is one. -/
def write (s : Store) (key : Identifier) (f : Form) : Store := ⟨writeEntry key f s.entries, ascending_writeEntry s.ascending⟩

/-- The store of a list of forms, each under its own identifier; of two forms with one identifier the later is kept. -/
def ofList (fs : List Form) : Store := fs.foldl (fun s f => s.insert f.id f) empty

/-- The forms by ascending key. -/
def toList (s : Store) : List Form := s.entries.map (·.form)

def get? (s : Store) (id : Identifier) : Option Form := (s.entries.find? fun e => e.key = id).map (·.form)

def size (s : Store) : Nat := s.entries.length

def isEmpty (s : Store) : Bool := s.size == 0

/-- Keeps a new form under the given identifier, which becomes its own: the form as it is kept, and the store. -/
def create (s : Store) (fresh : Identifier) (f : Form) : Form × Store :=
  let f := { f with id := fresh }
  (f, s.insert f.id f)

/-- Writes a form over the one that is kept under its identifier. -/
def update (s : Store) (f : Form) : Except StoreError (Form × Store) :=
  if (s.get? f.id).isSome then .ok (f, s.write f.id f) else .error (.notFound f.id)

/-- The outcome of validating a submission for the form with an identifier. -/
def submit (s : Store) (enforce : Bool) (id : Identifier) (data : Submission) : Outcome :=
  validateFor enforce (s.get? id) data

end Store

end Webform
