import Webform.Form.Field

/-!
# Forms

A form holds containers of fields. The containers of the form itself are what is shown and validated; the steps of a form that is
filled in step by step list containers of their own and matter only to `Form.violations`.
-/

namespace Webform

/-- The role of a container in the structure of a form. -/
inductive ContainerKind where
  | block
  | part
  | group
deriving DecidableEq, Repr, Inhabited

/-- The element that says what a container is. -/
def ContainerKind.element : ContainerKind → String
  | block => "div"
  | part => "section"
  | group => "fieldset"

/-- A styled block of fields, in the order in which they are shown. -/
structure Container where
  id : Identifier := .nil
  kind : ContainerKind := .block
  fields : List Field := []
  style : ContainerStyle := {}
deriving Repr, Inhabited

/-- The first field with a name. -/
def Container.field? (c : Container) (name : String) : Option Field :=
  c.fields.find? fun f => f.name = name

/-- The container with a further field at its end. -/
def Container.addField (c : Container) (f : Field) : Container := { c with fields := c.fields ++ [f] }

/-- One page of a form that is filled in step by step. -/
structure Step where
  order : Int32 := 0
  title : String := ""
  containers : List Container := []
deriving Repr, Inhabited

/-- The step with a further container at its end. -/
def Step.addContainer (s : Step) (c : Container) : Step := { s with containers := s.containers ++ [c] }

/-- A form. -/
structure Form where
  id : Identifier := .nil
  title : String := ""
  description : String := ""
  containers : List Container := []
  isMultiStep : Bool := false
  steps : List Step := []
  customCss : Option String := none
  customJs : Option String := none
deriving Repr, Inhabited

namespace Form

/-- The form with a further container of its own at the end. -/
def addContainer (f : Form) (c : Container) : Form := { f with containers := f.containers ++ [c] }

/-- The form with a further step at the end; it is then filled in step by step. The containers of the step do not become containers
of the form itself. -/
def addStep (f : Form) (s : Step) : Form := { f with isMultiStep := true, steps := f.steps ++ [s] }

/-- The fields of all containers of the form itself, in order. -/
def fields (f : Form) : List Field := f.containers.flatMap (·.fields)

@[simp] theorem mem_fields {f : Form} {g : Field} : g ∈ f.fields ↔ ∃ c ∈ f.containers, g ∈ c.fields := List.mem_flatMap

/-- The first field with a name. -/
def field? (f : Form) (name : String) : Option Field :=
  f.fields.find? fun g => g.name = name

/-- Whether the form has no containers of its own. -/
def isEmpty (f : Form) : Bool := f.containers.isEmpty

/-- The steps by ascending order; steps of one order stay as they stand. -/
def orderedSteps (f : Form) : List Step :=
  f.steps.mergeSort fun a b => a.order ≤ b.order

end Form

end Webform
