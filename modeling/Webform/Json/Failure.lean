import Webform.Identifier
import Webform.Json.Value
import Webform.Text.Quoted

/-!
# Why a text is not read

A `Failure` names a cause and a place. The place is given by what has not been read of the text there, which is how readers know it;
`Position.of` turns it into a line and a column, the column counted in bytes.
-/

namespace Webform.Json

/-- What was found where something else was expected. -/
inductive Found where
  | null
  | bool (b : Bool)
  | number (n : Number)
  | string (s : String)
  | sequence
  | map
deriving Repr

/-- A number in backticks, after what it is. -/
def Number.describe (n : Number) : String :=
  match n with
  | .integer _ => "integer `" ++ .ofList n.toList ++ "`"
  | .double _ => "floating point `" ++ .ofList n.toList ++ "`"

def Found.describe : Found → String
  | null => "null"
  | bool b => "boolean `" ++ .ofList (boolToList b) ++ "`"
  | number n => n.describe
  | string s => "string " ++ Text.quoted s
  | sequence => "sequence"
  | map => "map"

/-- The causes for which a text is not read: first those of the syntax, then those of a document's records. -/
inductive Cause where
  | endInValue
  | endInString
  | endInList
  | endInObject
  | noValue
  | noWord
  | noColon
  | noListEnd
  | noObjectEnd
  | trailingComma
  | trailingCharacters
  | keyNotString
  | badEscape
  | badNumber
  | numberTooLarge
  | loneSurrogate
  | endOfHexEscape
  | controlCharacter
  | tooDeep
  | wrongType (found : Found) (expected : String)
  | wrongValue (found : Int) (expected : String)
  | wrongLength (found : Nat) (expected : String)
  | unknownVariant (found : String) (known : List String)
  | duplicateField (key : String)
  | missingField (key : String)
  | identifier (why : Identifier.ReadError)
deriving Repr

/-- Names in backticks with commas between them. -/
def listed (names : List String) : String :=
  ", ".intercalate (names.map fun n => "`" ++ n ++ "`")

def Cause.message : Cause → String
  | endInValue => "EOF while parsing a value"
  | endInString => "EOF while parsing a string"
  | endInList => "EOF while parsing a list"
  | endInObject => "EOF while parsing an object"
  | noValue => "expected value"
  | noWord => "expected ident"
  | noColon => "expected `:`"
  | noListEnd => "expected `,` or `]`"
  | noObjectEnd => "expected `,` or `\x7d`"
  | trailingComma => "trailing comma"
  | trailingCharacters => "trailing characters"
  | keyNotString => "key must be a string"
  | badEscape => "invalid escape"
  | badNumber => "invalid number"
  | numberTooLarge => "number out of range"
  | loneSurrogate => "lone leading surrogate in hex escape"
  | endOfHexEscape => "unexpected end of hex escape"
  | controlCharacter => "control character (\\u0000-\\u001F) found while parsing a string"
  | tooDeep => "recursion limit exceeded"
  | wrongType f e => "invalid type: " ++ f.describe ++ ", expected " ++ e
  | wrongValue i e => "invalid value: integer `" ++ .ofList (integerToList i) ++ "`, expected " ++ e
  | wrongLength n e => "invalid length " ++ toString n ++ ", expected " ++ e
  | unknownVariant v known => "unknown variant `" ++ v ++ "`, expected one of " ++ listed known
  | duplicateField k => "duplicate field `" ++ k ++ "`"
  | missingField k => "missing field `" ++ k ++ "`"
  | identifier why => "UUID parsing failed: " ++ why.message

/-- A cause, with what is unread of the text at its place: the place is `ahead` bytes past the start of `rest`. -/
structure Failure where
  cause : Cause
  rest : List Char
  ahead : Nat
deriving Repr

/-- A failure right before the unread text. -/
def Failure.before (cause : Cause) (rest : List Char) : Failure := ⟨cause, rest, 0⟩

/-- A failure about the next character: its place is past the first byte of that character, if there is one. -/
def Failure.next (cause : Cause) (rest : List Char) : Failure := ⟨cause, rest, if rest.isEmpty then 0 else 1⟩

/-- A line, counted from one, and a number of bytes since its start. -/
structure Position where
  line : Nat
  column : Nat
deriving DecidableEq, Repr

namespace Position

def start : Position := ⟨1, 0⟩

/-- The position after a character. -/
def step (p : Position) (c : Char) : Position :=
  if c = '\n' then ⟨p.line + 1, 0⟩ else ⟨p.line, p.column + c.utf8Size⟩

/-- The position a number of bytes further on in a text; it may lie inside a character. -/
def advance (p : Position) : Nat → List Char → Position
  | _, [] => p
  | n, c :: cs => if c.utf8Size ≤ n then (p.step c).advance (n - c.utf8Size) cs else ⟨p.line, p.column + n⟩

/-- The position of a place in a text. -/
def of (text : List Char) (f : Failure) : Position :=
  ((text.take (text.length - f.rest.length)).foldl step start).advance f.ahead f.rest

end Position

/-- The message of a failure to read a text. -/
def Failure.message (text : List Char) (f : Failure) : String :=
  let p := Position.of text f
  f.cause.message ++ " at line " ++ toString p.line ++ " column " ++ toString p.column

end Webform.Json
