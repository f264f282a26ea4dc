import Webform.Json.Reader

/-!
# Codecs

A codec reads the values of a type from JSON text and writes them as JSON values. Reading is more liberal than writing: a nullable
text may be absent or `null`, a choice may go by several names, and a record may stand as an array of its members in order
(`Record.codec`). The reader and the writer of a record are both made from one list of members.
-/

namespace Webform.Json

/-- A reader for a type, and the JSON values that its values are written as. -/
structure Codec (α : Type) where
  read : Reader α
  write : α → Value

/-- Reads a text into a value. -/
def Codec.ofText {α : Type} (c : Codec α) (text : String) : Except Failure α := readText c.read text

/-- The text of a value on one line. -/
def Codec.compact {α : Type} (c : Codec α) (a : α) : String := (c.write a).compact

/-- The text of a value on indented lines. -/
def Codec.pretty {α : Type} (c : Codec α) (a : α) : String := (c.write a).pretty

/-! ## Single values -/

/-- Reads a string. -/
def readString (expected : String) (cs : List Char) : Scan String :=
  match skipSpace cs with
  | '"' :: r => (scanString r).as .ofList
  | r => .error (wrongKind expected r)

/-- Reads a number. -/
def readNumber (expected : String) (cs : List Char) : Scan Number :=
  match skipSpace cs with
  | '-' :: r => scanNumber true r
  | c :: r => if isDigit c then scanNumber false (c :: r) else .error (wrongKind expected (c :: r))
  | [] => .error (wrongKind expected [])

/-- Reads an integer between bounds. -/
def readInteger (expected : String) (low high : Int) (cs : List Char) : Scan Int :=
  match readNumber expected cs with
  | .error e => .error e
  | .ok (.integer i, r) =>
    if low ≤ i ∧ i ≤ high then .ok (i, r) else .error (.before (.wrongValue i expected) r)
  | .ok (.double d, r) => .error (.before (.wrongType (.number (.double d)) expected) r)

/-- Reads `null`, or else what `reader` reads. -/
def readOptional {α : Type} (reader : Reader α) : Reader (Option α) := fun lim cs =>
  match skipSpace cs with
  | 'n' :: r => yielding none (expectWord ['u', 'l', 'l'] r)
  | r => (reader lim r).as some

namespace Codec

/-- A string. -/
def text : Codec String := ⟨fun _ => readString "a string", .string⟩

/-- A value that may be `null`. -/
def optional {α : Type} (c : Codec α) : Codec (Option α) where
  read := readOptional c.read
  write
    | none => .null
    | some a => c.write a

/-- A string for which `null` may stand when it is empty. -/
def nullableText : Codec String where
  read lim cs := (readOptional text.read lim cs).as (·.getD "")
  write := .string

/-- A truth value. -/
def bool : Codec Bool where
  read _ cs :=
    match skipSpace cs with
    | 't' :: r => yielding true (expectWord ['r', 'u', 'e'] r)
    | 'f' :: r => yielding false (expectWord ['a', 'l', 's', 'e'] r)
    | r => .error (wrongKind "a boolean" r)
  write := .bool

/-- An integer of 32 bits. -/
def int32 : Codec Int32 where
  read _ cs := (readInteger "i32" (-(Nat.pow 2 31 : Int)) (Nat.pow 2 31 - 1 : Int) cs).as Int32.ofInt
  write i := .number (.integer i.toInt)

/-- A count of 64 bits. -/
def count : Codec UInt64 where
  read _ cs := (readInteger "usize" 0 (Nat.pow 2 64 - 1 : Int) cs).as fun i => UInt64.ofNat i.toNat
  write n := .number (.integer n.toNat)

/-- An identifier, as a string. -/
def identifier : Codec Identifier where
  read _ cs :=
    match readString "a formatted UUID string" cs with
    | .error e => .error e
    | .ok (s, r) =>
      match Identifier.read s with
      | .error e => .error (.before (.identifier e) r)
      | .ok i => .ok (i, r)
  write i := .string i.toString

/-- Any value. -/
def value : Codec Value := ⟨readValue, id⟩

/-- The members of an object of free values. -/
def members : Codec Object where
  read lim cs :=
    match skipSpace cs with
    | '\x7b' :: r => enter lim ('\x7b' :: r) fun lim => readFreeObject (readValue lim) lim.entries r
    | r => .error (wrongKind "a map" r)
  write o := .object o.members

/-- A list. -/
def list {α : Type} (c : Codec α) : Codec (List α) where
  read lim cs :=
    match skipSpace cs with
    | '[' :: r => enter lim ('[' :: r) fun lim => readElements (c.read lim) lim.entries true r
    | r => .error (wrongKind "a sequence" r)
  write as := .array (as.map c.write)

/-- Reads one of the two elements of a pair, the one at the given place. -/
def readElementAt {α : Type} (place : Nat) (c : Codec α) (lim : Limits) (cs : List Char) : Scan α :=
  match nextElement (place == 0) cs with
  | .error e => .error e
  | .ok (none, r) => .error (.before (.wrongLength place "a tuple of size 2") (afterList r))
  | .ok (some s, _) => c.read lim s

/-- A pair, as a list of two. -/
def pair {α β : Type} (a : Codec α) (b : Codec β) : Codec (α × β) where
  read lim cs :=
    match skipSpace cs with
    | '[' :: r => enter lim ('[' :: r) fun lim =>
      match readElementAt 0 a lim r with
      | .error e => .error e
      | .ok (x, r) =>
        match readElementAt 1 b lim r with
        | .error e => .error e
        | .ok (y, r) => yielding (x, y) (closeList r)
    | r => .error (wrongKind "a tuple of size 2" r)
  write p := .array [a.write p.1, b.write p.2]

/-! ## Choices -/

/-- The case that a name stands for; `r` is the text after the name. -/
def findCase {α : Type} (cases : List (String × α)) (name : String) (r : List Char) : Scan α :=
  match cases.find? fun c => c.1 = name with
  | some (_, a) => .ok (a, r)
  | none => .error (.before (.unknownVariant name (cases.map (·.1))) r)

/-- Reads what follows the name in the object form of a case: a colon, `null` and the closing bracket. -/
def readCaseBody (cs : List Char) : Except Failure (List Char) := do
  let r ← expectColon cs
  let r ← match skipSpace r with
    | 'n' :: r => expectWord ['u', 'l', 'l'] r
    | r => .error (wrongKind "unit" r)
  match skipSpace r with
  | [] => .error (.before .endInObject [])
  | '\x7d' :: r => .ok r
  | r => .error (.before .noValue r)

/-- One of several cases, by name: the string, or an object with the name as its only key and `null` as its value. A case may have
several names; `name` tells the one that is written. -/
def choice {α : Type} (cases : List (String × α)) (name : α → String) : Codec α where
  read lim cs :=
    match skipSpace cs with
    | [] => .error (.before .endInValue [])
    | '"' :: r =>
      match scanString r with
      | .error e => .error e
      | .ok (s, r) => findCase cases (.ofList s) r
    | '\x7b' :: r => enter lim ('\x7b' :: r) fun _ =>
      match readString "variant identifier" r with
      | .error e => .error e
      | .ok (s, r) =>
        match findCase cases s r with
        | .error e => .error e
        | .ok (a, r) => yielding a (readCaseBody r)
    | r => .error (.next .noValue r)
  write a := .string (name a)

end Codec

/-! ## Records -/

/-- A member of a record: its key, how its value is read into the record, and what is written for it, if anything. A member that is
not required has the value it had at the start when it is absent. -/
structure Member (R : Type) where
  key : String
  required : Bool
  read : R → Reader R
  write : R → Option Value

/-- A member that is kept in a part of the record. -/
def Member.of {R α : Type} (key : String) (c : Codec α) (get : R → α) (set : R → α → R) : Member R where
  key := key
  required := false
  read a lim cs := (c.read lim cs).as (set a)
  write a := some (c.write (get a))

/-- A record type: its name, its members in order, and the record that absent members leave as it is. -/
structure Record (R : Type) where
  name : String
  members : List (Member R)
  start : R

namespace Record

variable {R : Type} (rec : Record R)

/-- What a value that is no record of the type is not. -/
def expected : String := "struct " ++ rec.name

/-- Reads the member with a key into a record: the keys read so far are kept to refuse a repeated one. Members with other keys are
passed over. -/
def readMember (lim : Limits) (a : R × List String) (key : String) (cs : List Char) : Scan (R × List String) :=
  match rec.members.find? fun m => m.key = key with
  | none =>
    match expectColon cs with
    | .error e => .error e
    | .ok r => yielding a (skipValue lim r)
  | some m =>
    if key ∈ a.2 then .error (.before (.duplicateField key) (afterObject cs))
    else
      match expectColon cs with
      | .error e => .error e
      | .ok r => (m.read a.1 lim r).as fun b => (b, key :: a.2)

/-- Reads a record from the members of an object. -/
def readObject (lim : Limits) (cs : List Char) : Scan R :=
  match readMembers (rec.readMember lim) lim.entries true (rec.start, []) cs with
  | .error e => .error e
  | .ok ((a, keys), r) =>
    match rec.members.find? fun m => m.required && !keys.contains m.key with
    | some m => .error (.before (.missingField m.key) (afterObject r))
    | none => yielding a (closeObject r)

/-- Reads the given members, the first of which has the given place, from the elements of an array; missing ones at the end are
absent. -/
def readPlaces (lim : Limits) : List (Member R) → Nat → Bool → R → List Char → Scan R
  | [], _, _, a, cs => yielding a (closeList cs)
  | m :: ms, place, first, a, cs =>
    match nextElement first cs with
    | .error e => .error e
    | .ok (none, r) =>
      if m.required then
        .error (.before (.wrongLength place (rec.expected ++ " with " ++ toString rec.members.length ++ " elements")) (afterList r))
      else readPlaces lim ms (place + 1) first a r
    | .ok (some s, _) =>
      match m.read a lim s with
      | .error e => .error e
      | .ok (a, r) => readPlaces lim ms (place + 1) false a r

/-- The codec of a record type. -/
def codec : Codec R where
  read lim cs :=
    match skipSpace cs with
    | '[' :: r => enter lim ('[' :: r) fun lim => rec.readPlaces lim rec.members 0 true rec.start r
    | '\x7b' :: r => enter lim ('\x7b' :: r) fun lim => rec.readObject lim r
    | r => .error (wrongKind rec.expected r)
  write a := .object (rec.members.filterMap fun m => (m.write a).map fun v => (m.key, v))

end Record

end Webform.Json
