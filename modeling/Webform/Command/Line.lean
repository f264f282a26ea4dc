import Webform.Markup.Page

/-!
# Command lines

The arguments of a command line, and the request that they come to. Options may stand before and after the operands of their
command; after `--` there are only operands. `Request.ofArguments?` gives none for a line that is not well formed.
-/

namespace Webform.Command

/-- What is asked for. -/
inductive Request where
  | render (form : String) (options : RenderOptions) (output : Option String)
  | validate (form submission : String) (enforce : Bool)
  | check (form : String)
  | version
  | help
deriving Repr

/-- The paths that are read for a request. -/
def Request.inputs : Request → List String
  | render form _ _ | check form => [form]
  | validate form submission _ => [form, submission]
  | version | help => []

/-- The path that is written for a request. -/
def Request.output? : Request → Option String
  | render _ _ output => output
  | validate .. | check .. | version | help => none

/-- An argument by its form. -/
inductive Argument where
  /-- `--`, after which there are only operands. -/
  | rest
  /-- An option by its name, with a value if one stands after an equals sign. -/
  | long (name : String) (value : Option String)
  /-- Options by their letters; what follows the letter of an option with a value is the value. -/
  | short (letters : List Char)
  | operand (text : String)
deriving Repr

/-- An option's name, and what stands after the first equals sign, if there is one. -/
def Argument.ofLong (cs : List Char) : Argument :=
  let name : String := .ofList (cs.takeWhile (· != '='))
  match cs.dropWhile (· != '=') with
  | [] => long name none
  | _ :: value => long name (some (.ofList value))

/-- The form of an argument; a single hyphen is an operand. -/
def Argument.of (text : String) : Argument :=
  match text.toList with
  | ['-', '-'] => rest
  | '-' :: '-' :: cs => ofLong cs
  | '-' :: c :: cs => short (c :: cs)
  | _ => operand text

/-- The arguments that a command takes: flags by their names, the option for the output or none, and a number of operands. -/
structure Usage where
  flags : List String
  hasOutput : Bool
  operands : Nat
deriving Repr

/-- The arguments of a command that have been read. -/
structure Given where
  flags : List String := []
  output : Option String := none
  operands : List String := []
deriving Repr

namespace Usage

variable (u : Usage)

/-- Adds a flag, which must be one of the command's and may be given once. -/
def addFlag? (g : Given) (name : String) : Option Given :=
  if name ∈ u.flags ∧ name ∉ g.flags then some { g with flags := name :: g.flags } else none

/-- Adds the path of the output, which may be given once and is not empty. -/
def addOutput? (g : Given) (path : String) : Option Given :=
  if path.isEmpty ∨ g.output.isSome then none else some { g with output := some path }

/-- Adds an operand. None is empty, and there are no more than the command takes. -/
def addOperand? (g : Given) (text : String) : Option Given :=
  if text.isEmpty ∨ u.operands ≤ g.operands.length then none else some { g with operands := g.operands ++ [text] }

/-- Adds operands. -/
def addOperands? (g : Given) : List String → Option Given
  | [] => some g
  | t :: ts => (u.addOperand? g t).bind fun g => addOperands? g ts

/-- What reading one argument comes to. -/
inductive Advance where
  | taken (g : Given)
  /-- The next argument is the path of the output. -/
  | awaiting (g : Given)
  /-- Only operands follow. -/
  | operands (g : Given)
  | help
  | refused

/-- The advance to what has been read with something more, if it could be added. -/
def Advance.ofOption : Option Given → Advance
  | some g => taken g
  | none => refused

/-- Reads options by their letters. -/
def readLetters (g : Given) : List Char → Advance
  | [] => .taken g
  | 'v' :: cs => readLetters g cs
  | 'h' :: _ => .help
  | 'o' :: cs =>
    if !u.hasOutput then .refused
    else
      match cs with
      | [] => .awaiting g
      | '=' :: path => .ofOption (addOutput? g (.ofList path))
      | path => .ofOption (addOutput? g (.ofList path))
  | _ => .refused

/-- Reads an option by its name. -/
def readLong (g : Given) (name : String) (value : Option String) : Advance :=
  match name, value with
  | "output", none => if u.hasOutput then .awaiting g else .refused
  | "output", some path => if u.hasOutput then .ofOption (addOutput? g path) else .refused
  | _, some _ => .refused
  | "verbose", none => .taken g
  | "help", none => .help
  | name, none => .ofOption (u.addFlag? g name)

/-- Reads one argument; an awaited path may be any operand. -/
def readArgument (g : Given) (awaiting : Bool) (a : Argument) : Advance :=
  match a, awaiting with
  | .operand path, true => .ofOption (addOutput? g path)
  | _, true => .refused
  | .operand text, false => .ofOption (u.addOperand? g text)
  | .rest, false => .operands g
  | .short letters, false => u.readLetters g letters
  | .long name value, false => u.readLong g name value

/-- What is given, if no operand is missing. -/
def finish? (g : Given) : Option (Option Given) :=
  if g.operands.length = u.operands then some (some g) else none

/-- Reads the arguments after the name of a command: what is given, or none of it when help is asked for. -/
def read? (g : Given) (awaiting : Bool) : List String → Option (Option Given)
  | [] => if awaiting then none else u.finish? g
  | a :: as =>
    match u.readArgument g awaiting (.of a) with
    | .taken g => read? g false as
    | .awaiting g => read? g true as
    | .operands g => (u.addOperands? g as).bind u.finish?
    | .help => some none
    | .refused => none

end Usage

namespace Request

/-- The arguments of the command with a name, and what they ask for. -/
def usage? (command : String) : Option (Usage × (Given → Option Request)) :=
  match command with
  | "render" => some (⟨["full-document", "raw", "semantic-containers"], true, 1⟩, fun g =>
      match g.operands with
      | [form] => some (.render form
          { fullDocument := g.flags.contains "full-document", escape := !g.flags.contains "raw",
            semantic := g.flags.contains "semantic-containers" } g.output)
      | _ => none)
  | "validate" => some (⟨["required-only"], false, 2⟩, fun g =>
      match g.operands with
      | [form, submission] => some (.validate form submission (!g.flags.contains "required-only"))
      | _ => none)
  | "check" => some (⟨[], false, 1⟩, fun g =>
      match g.operands with
      | [form] => some (.check form)
      | _ => none)
  | _ => none

/-- The request for help, after which the name of a command may stand. -/
def helpOn? : List String → Option Request
  | [] => some .help
  | [command] => if command = "help" ∨ (usage? command).isSome then some .help else none
  | _ => none

/-- The request of a command with its arguments. -/
def ofCommand? (command : String) (arguments : List String) : Option Request :=
  if command = "help" then helpOn? arguments
  else
    match usage? command with
    | none => none
    | some (u, request?) =>
      match u.read? {} false arguments with
      | none => none
      | some none => some .help
      | some (some g) => request? g

/-- What letters before the command ask for: nothing, help or the version. -/
def ofLetters? : List Char → Option (Option Request)
  | [] => some none
  | 'v' :: cs => ofLetters? cs
  | 'h' :: _ => some (some .help)
  | 'V' :: _ => some (some .version)
  | _ => none

/-- The request of a command line. -/
def ofArguments? : List String → Option Request
  | [] => none
  | a :: as =>
    match Argument.of a with
    | .operand command => ofCommand? command as
    | .long "verbose" none => ofArguments? as
    | .long "help" none => some .help
    | .long "version" none => some .version
    | .short letters =>
      match ofLetters? letters with
      | none => none
      | some (some request) => some request
      | some none => ofArguments? as
    | _ => none

end Request

end Webform.Command
