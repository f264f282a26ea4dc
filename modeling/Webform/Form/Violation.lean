import Webform.Form.Basic

/-!
# Violations of the step structure

A form that is filled in step by step needs a step, and every container of its own belongs to exactly one of them. What a step lists
is known by identifier. `Form.violations` tells all that is wrong, `Form.check` the first of it.
-/

namespace Webform

/-- What is wrong with the steps of a form. -/
inductive Violation where
  /-- There are no steps. -/
  | noSteps
  /-- A container of the form is in no step. -/
  | unassigned (container : Identifier)
  /-- A container is listed more than once by the steps. -/
  | shared (container : Identifier)
deriving DecidableEq, Repr

def Violation.message : Violation → String
  | noSteps => "Form is multi-step but has no steps"
  | unassigned id => "Container " ++ id.toString ++ " does not belong to any step"
  | shared id => "Container " ++ id.toString ++ " belongs to more than one step"

/-- How often the steps list each container, by identifier. -/
abbrev Listings := List (Identifier × Nat)

namespace Listings

/-- Counts one more listing of a container. -/
def add : Listings → Identifier → Listings
  | [], id => [(id, 1)]
  | (i, n) :: rest, id => if i = id then (i, n + 1) :: rest else (i, n) :: add rest id

/-- How often a container is listed, if it is listed at all. -/
def get? (ls : Listings) (id : Identifier) : Option Nat := (ls.find? fun l => l.1 = id).map (·.2)

end Listings

namespace Form

/-- The identifiers of the containers that the steps list, in order, with repetitions. -/
def stepContainers (f : Form) : List Identifier :=
  f.steps.flatMap fun s => s.containers.map (·.id)

/-- The containers that the steps list, counted one after another. -/
def listings (f : Form) : Listings :=
  f.steps.foldl (fun ls s => s.containers.foldl (fun ls c => ls.add c.id) ls) []

/-- The containers that are listed more than once, each once, in the order in which they are met. -/
def sharedContainers (f : Form) (ls : Listings) : List Identifier :=
  f.steps.foldl (fun reported s => s.containers.foldl (fun reported c =>
    if 1 < (ls.get? c.id).getD 0 && !reported.contains c.id then reported ++ [c.id] else reported) reported) []

/-- All that is wrong with the steps of a form: the shared containers in the order in which they are met, then the unassigned ones in
order. Nothing is wrong with a form that is not filled in step by step. -/
def violations (f : Form) : List Violation :=
  if !f.isMultiStep then []
  else if f.steps.isEmpty then [.noSteps]
  else
    let ls := f.listings
    (f.sharedContainers ls).map .shared ++
      (f.containers.filter fun c => (ls.get? c.id).isNone).map fun c => .unassigned c.id

/-- The first thing that is wrong with the steps of a form. -/
def check (f : Form) : Except Violation Unit :=
  match f.violations with
  | [] => .ok ()
  | v :: _ => .error v

end Form

end Webform
