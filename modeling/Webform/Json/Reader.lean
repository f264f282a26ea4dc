import Webform.Json.Scan

/-!
# Reading JSON values

A `Reader` reads one value, blanks before it included. Texts are read from left to right and the first thing wrong ends the
reading, so a reader fails where a value of the wrong kind starts or ends and never looks beyond it. `readValue` reads any value;
`skipValue` passes over one. Nesting is bounded for what is read and unbounded for what is passed over.
-/

namespace Webform.Json

/-- What bounds a reading: how many entries a list or object may have, which the length of the text always covers, and how many
brackets may still be opened. -/
structure Limits where
  entries : Nat
  depth : Nat
deriving DecidableEq, Repr

/-- The limits for a text: at most 127 brackets are open at a time. -/
def Limits.forText (cs : List Char) : Limits := ⟨cs.length + 1, 127⟩

/-- Reads a value within limits. -/
abbrev Reader (α : Type) := Limits → List Char → Scan α

/-- Opens a bracket: `body` reads what stands after it, with one bracket less to open. -/
def enter {α : Type} (lim : Limits) (cs : List Char) (body : Limits → Scan α) : Scan α :=
  match lim.depth with
  | 0 => .error (.next .tooDeep cs)
  | d + 1 => body ⟨lim.entries, d⟩

/-! ## Lists -/

/-- Looks for a further element of a list: the text where it starts, or `none` before the closing bracket. -/
def nextElement (first : Bool) (cs : List Char) : Except Failure (Option (List Char) × List Char) :=
  match skipSpace cs with
  | [] => .error (.before .endInList [])
  | ']' :: r => .ok (none, ']' :: r)
  | c :: r =>
    if first then .ok (some (c :: r), c :: r)
    else if c = ',' then
      match skipSpace r with
      | [] => .error (.before .endInValue [])
      | ']' :: r => .error (.next .trailingComma (']' :: r))
      | r => .ok (some r, r)
    else .error (.next .noListEnd (c :: r))

/-- Closes a list. -/
def closeList (cs : List Char) : Except Failure (List Char) :=
  match skipSpace cs with
  | [] => .error (.before .endInList [])
  | ']' :: r => .ok r
  | ',' :: r =>
    match skipSpace r with
    | ']' :: r => .error (.next .trailingComma (']' :: r))
    | r => .error (.next .trailingCharacters r)
  | r => .error (.next .trailingCharacters r)

/-- Where a list's reader stands after an attempt to close it. -/
def afterList (cs : List Char) : List Char :=
  match skipSpace cs with
  | ']' :: r => r
  | ',' :: r => skipSpace r
  | r => r

/-- Reads the elements of a list up to its closing bracket. -/
def readElements {α : Type} (element : List Char → Scan α) : Nat → Bool → List Char → Scan (List α)
  | 0, _, cs => .error (.before .endInList cs)
  | n + 1, first, cs =>
    match nextElement first cs with
    | .error e => .error e
    | .ok (none, r) =>
      match closeList r with
      | .error e => .error e
      | .ok r => .ok ([], r)
    | .ok (some s, _) =>
      match element s with
      | .error e => .error e
      | .ok (a, r) =>
        match readElements element n false r with
        | .error e => .error e
        | .ok (as, r) => .ok (a :: as, r)

/-! ## Objects -/

/-- Looks for a further key of an object: the text where it starts, or `none` before the closing bracket. -/
def nextKey (first : Bool) (cs : List Char) : Except Failure (Option (List Char) × List Char) :=
  match skipSpace cs with
  | [] => .error (.before .endInObject [])
  | '\x7d' :: r => .ok (none, '\x7d' :: r)
  | c :: r =>
    if first then
      if c = '"' then .ok (some r, r) else .error (.next .keyNotString (c :: r))
    else if c = ',' then
      match skipSpace r with
      | [] => .error (.before .endInValue [])
      | '"' :: r => .ok (some r, r)
      | '\x7d' :: r => .error (.next .trailingComma ('\x7d' :: r))
      | r => .error (.next .keyNotString r)
    else .error (.next .noObjectEnd (c :: r))

/-- Reads the colon between a key and its value. -/
def expectColon (cs : List Char) : Except Failure (List Char) :=
  match skipSpace cs with
  | [] => .error (.before .endInObject [])
  | ':' :: r => .ok r
  | r => .error (.next .noColon r)

/-- Closes an object. -/
def closeObject (cs : List Char) : Except Failure (List Char) :=
  match skipSpace cs with
  | [] => .error (.before .endInObject [])
  | '\x7d' :: r => .ok r
  | ',' :: r => .error (.next .trailingComma (',' :: r))
  | r => .error (.next .trailingCharacters r)

/-- Where an object's reader stands after an attempt to close it. -/
def afterObject (cs : List Char) : List Char :=
  match skipSpace cs with
  | '\x7d' :: r => r
  | r => r

/-- Reads the members of an object up to its closing bracket. The reader of a member gets what has been made of those before it, the
key, and the text after the key. -/
def readMembers {α : Type} (member : α → String → List Char → Scan α) : Nat → Bool → α → List Char → Scan α
  | 0, _, _, cs => .error (.before .endInObject cs)
  | n + 1, first, a, cs =>
    match nextKey first cs with
    | .error e => .error e
    | .ok (none, r) => .ok (a, r)
    | .ok (some s, _) =>
      match scanString s with
      | .error e => .error e
      | .ok (key, r) =>
        match member a (.ofList key) r with
        | .error e => .error e
        | .ok (a, r) => readMembers member n false a r

/-! ## Values -/

/-- Reads a member of an object of free values. -/
def readFreeMember (value : List Char → Scan Value) (o : Object) (key : String) (cs : List Char) : Scan Object :=
  match expectColon cs with
  | .error e => .error e
  | .ok r =>
    match value r with
    | .error e => .error e
    | .ok (v, r) => .ok (o.insert key v, r)

/-- Reads the members of an object of free values, its closing bracket included. -/
def readFreeObject (value : List Char → Scan Value) (entries : Nat) (cs : List Char) : Scan Object :=
  match readMembers (readFreeMember value) entries true {} cs with
  | .error e => .error e
  | .ok (o, r) =>
    match closeObject r with
    | .error e => .error e
    | .ok r => .ok (o, r)

/-- Reads any value, within a number of entries and a number of brackets. -/
def readValueWithin (entries : Nat) : Nat → List Char → Scan Value
  | depth, cs =>
    match skipSpace cs with
    | [] => .error (.before .endInValue [])
    | 'n' :: r => yielding .null (expectWord ['u', 'l', 'l'] r)
    | 't' :: r => yielding (.bool true) (expectWord ['r', 'u', 'e'] r)
    | 'f' :: r => yielding (.bool false) (expectWord ['a', 'l', 's', 'e'] r)
    | '"' :: r => (scanString r).as fun s => .string (.ofList s)
    | '-' :: r => (scanNumber true r).as .number
    | '[' :: r =>
      match depth with
      | 0 => .error (.next .tooDeep ('[' :: r))
      | d + 1 => (readElements (readValueWithin entries d) entries true r).as .array
    | '\x7b' :: r =>
      match depth with
      | 0 => .error (.next .tooDeep ('\x7b' :: r))
      | d + 1 => (readFreeObject (readValueWithin entries d) entries r).as fun o => .object o.members
    | c :: r => if isDigit c then (scanNumber false (c :: r)).as .number else .error (.next .noValue (c :: r))

/-- Reads any value. -/
def readValue : Reader Value := fun lim cs => readValueWithin lim.entries lim.depth cs

/-! ## Values that are passed over -/

/-- An open bracket of a value that is passed over. -/
inductive Bracket where
  | list
  | object
deriving DecidableEq, Repr

def Bracket.closing : Bracket → Char
  | list => ']'
  | object => '\x7d'

/-- What is wrong when neither a comma nor the closing bracket follows an entry. -/
def Bracket.noEnd : Bracket → Cause
  | list => .noListEnd
  | object => .noObjectEnd

/-- What is wrong when the text ends before the closing bracket. -/
def Bracket.ended : Bracket → Cause
  | list => .endInList
  | object => .endInObject

/-- Passes over the key and colon that an entry starts with when the bracket is that of an object. -/
def Bracket.skipKey (b : Bracket) (cs : List Char) : Except Failure (List Char) :=
  match b with
  | list => .ok cs
  | object =>
    match skipSpace cs with
    | [] => .error (.before .endInObject [])
    | '"' :: r =>
      match skipString r with
      | .error e => .error e
      | .ok r => expectColon r
    | r => .error (.next .keyNotString r)

/-- Passes over what follows a value inside the given brackets, innermost first, up to the next value: the brackets then open and
the text there, no bracket being left after the outermost value. -/
def skipAfter : List Bracket → List Char → Except Failure (List Bracket × List Char)
  | [], cs => .ok ([], cs)
  | b :: bs, cs =>
    match skipSpace cs with
    | [] => .error (.before b.ended [])
    | c :: r =>
      if c = ',' then
        match b.skipKey r with
        | .error e => .error e
        | .ok r => .ok (b :: bs, r)
      else if c = b.closing then skipAfter bs r
      else .error (.next b.noEnd (c :: r))

/-- Passes over what follows an opening bracket, up to the next value. -/
def skipOpening (b : Bracket) (bs : List Bracket) (cs : List Char) : Except Failure (List Bracket × List Char) :=
  match skipSpace cs with
  | [] => .error (.before b.ended [])
  | c :: r =>
    if c = b.closing then skipAfter bs r
    else
      match b.skipKey (c :: r) with
      | .error e => .error e
      | .ok r => .ok (b :: bs, r)

/-- Passes over a value without entries, or the opening bracket of another, up to the next value. -/
def skipOne (bs : List Bracket) (cs : List Char) : Except Failure (List Bracket × List Char) :=
  match skipSpace cs with
  | [] => .error (.before .endInValue [])
  | 'n' :: r => do skipAfter bs (← expectWord ['u', 'l', 'l'] r)
  | 't' :: r => do skipAfter bs (← expectWord ['r', 'u', 'e'] r)
  | 'f' :: r => do skipAfter bs (← expectWord ['a', 'l', 's', 'e'] r)
  | '"' :: r => do skipAfter bs (← skipString r)
  | '-' :: r => do skipAfter bs (← skipNumber r)
  | '[' :: r => skipOpening .list bs r
  | '\x7b' :: r => skipOpening .object bs r
  | c :: r => if isDigit c then do skipAfter bs (← skipNumber (c :: r)) else .error (.next .noValue (c :: r))

/-- Passes over a value inside brackets, and all that follows it up to the end of the outermost value. Each round passes at least
one character. -/
def skipWithin : Nat → List Bracket → List Char → Except Failure (List Char)
  | 0, _, cs => .error (.before .endInValue cs)
  | n + 1, bs, cs =>
    match skipOne bs cs with
    | .error e => .error e
    | .ok ([], r) => .ok r
    | .ok (b :: bs, r) => skipWithin n (b :: bs) r

/-- Passes over any value, however deep. -/
def skipValue (lim : Limits) (cs : List Char) : Except Failure (List Char) := skipWithin lim.entries [] cs

/-! ## Values of the wrong kind -/

/-- The failure of a reader that wants something else than what starts here. A value without entries is read first, and the place
is after it; the place of an array or object is before it. -/
def wrongKind (expected : String) (cs : List Char) : Failure :=
  let found {α : Type} (scan : Scan α) (describe : α → Found) : Failure :=
    match scan with
    | .error e => e
    | .ok (a, r) => .before (.wrongType (describe a) expected) r
  match skipSpace cs with
  | [] => .before .endInValue []
  | 'n' :: r => found ((expectWord ['u', 'l', 'l'] r).map fun r => ((), r)) fun _ => .null
  | 't' :: r => found ((expectWord ['r', 'u', 'e'] r).map fun r => ((), r)) fun _ => .bool true
  | 'f' :: r => found ((expectWord ['a', 'l', 's', 'e'] r).map fun r => ((), r)) fun _ => .bool false
  | '"' :: r => found (scanString r) fun s => .string (.ofList s)
  | '-' :: r => found (scanNumber true r) .number
  | '[' :: r => .before (.wrongType .sequence expected) ('[' :: r)
  | '\x7b' :: r => .before (.wrongType .map expected) ('\x7b' :: r)
  | c :: r => if isDigit c then found (scanNumber false (c :: r)) .number else .next .noValue (c :: r)

/-- Reads a text as one value with nothing but blanks after it. -/
def readText {α : Type} (reader : Reader α) (text : String) : Except Failure α :=
  let cs := text.toList
  match reader (.forText cs) cs with
  | .error e => .error e
  | .ok (a, r) =>
    match skipSpace r with
    | [] => .ok a
    | r => .error (.next .trailingCharacters r)

end Webform.Json
