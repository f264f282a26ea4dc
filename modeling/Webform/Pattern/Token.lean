import Webform.Pattern.Flags
import Webform.Text.Blank

/-!
# The pieces of a pattern

Readers for the pieces that stand between the brackets and operators of a pattern: escapes, numbers, flags and names. A reader takes
the text from where its piece starts and gives what it means with the text left over, or nothing when the piece is not well formed.
In verbose mode blanks and comments between the characters of a pattern are passed over.
-/

namespace Webform.Pattern

open Unicode (CharSet)

/-- Passes over blanks and comments; a comment runs from a number sign to the end of the line. -/
def skipVerbose (inComment : Bool) : List Char → List Char
  | [] => []
  | c :: cs =>
    if inComment then skipVerbose (c != '\n') cs
    else if Text.isBlankChar c then skipVerbose false cs
    else if c = '#' then skipVerbose true cs
    else c :: cs

/-- Passes over blanks and comments in verbose mode. -/
def skip (fs : Flags) (cs : List Char) : List Char :=
  if fs.verbose then skipVerbose false cs else cs

/-- Takes characters that satisfy a test, passing over what stands between them in verbose mode. -/
def takeSkipping (fs : Flags) (p : Char → Bool) : Nat → List Char → List Char × List Char
  | 0, cs => ([], cs)
  | n + 1, cs =>
    match cs with
    | [] => ([], [])
    | c :: r =>
      if p c then
        let (taken, rest) := takeSkipping fs p n (skip fs r)
        (c :: taken, rest)
      else ([], c :: r)

/-- Takes all characters at the start that satisfy a test. -/
def takeAll (fs : Flags) (p : Char → Bool) (cs : List Char) : List Char × List Char :=
  takeSkipping fs p cs.length cs

/-! ## Escapes -/

/-- What a piece means that may stand in a class as well as outside: a character, with a mark when it was written as one byte, a set,
or a test of the place. -/
inductive Primitive where
  | char (c : Char) (byte : Bool)
  | set (s : CharSet)
  | look (l : Look)
deriving Repr

/-- The character with a number. -/
def charOfNat? (n : Nat) : Option Char :=
  if h : n.isValidChar then some (Char.ofNatAux n h) else none

/-- The number that hexadecimal digits write. -/
def hexNumber? (cs : List Char) : Option Nat :=
  cs.foldl (fun n c => do return (← n) * 16 + (← CharSet.hexDigit? c)) (some 0)

/-- Takes a given number of hexadecimal digits. -/
def takeHex? (fs : Flags) : Nat → List Char → Option (List Char × List Char)
  | 0, cs => some ([], cs)
  | _ + 1, [] => none
  | n + 1, c :: cs => do
    let _ ← CharSet.hexDigit? c
    let (taken, rest) ← takeHex? fs n (skip fs cs)
    return (c :: taken, rest)

/-- Reads what follows a letter that announces the number of a character: digits in braces, or the number of digits that goes with
the letter. -/
def hexEscape? (fs : Flags) (letter : Char) (cs : List Char) : Option (Primitive × List Char) :=
  match skip fs cs with
  | [] => none
  | '\x7b' :: r => do
    let (taken, rest) := takeAll fs (· != '\x7d') (skip fs r)
    let n ← hexNumber? taken
    match rest with
    | _ :: rest =>
      if taken.isEmpty then none
      else
        let c ← charOfNat? n
        return (.char c false, skip fs rest)
    | [] => none
  | r => do
    let count := if letter = 'x' then 2 else if letter = 'u' then 4 else 8
    let (taken, rest) ← takeHex? fs count r
    let c ← charOfNat? (← hexNumber? taken)
    return (.char c (letter == 'x'), rest)

/-- Cuts a list at the first occurrence of another: what stands before and after it. -/
def cutAt? (mark : List Char) : List Char → Option (List Char × List Char)
  | [] => none
  | c :: cs =>
    if mark.isPrefixOf (c :: cs) then some ([], (c :: cs).drop mark.length)
    else (cutAt? mark cs).map fun p => (c :: p.1, p.2)

/-- The set that the text in the braces of a property means, and whether it is to be negated. -/
def propertySet? (name : List Char) : Option (CharSet × Bool) :=
  match cutAt? ['!', '='] name with
  | some (n, v) => (Unicode.propertyValue? n v).map (·, true)
  | none =>
    match cutAt? [':'] name with
    | some (n, v) => (Unicode.propertyValue? n v).map (·, false)
    | none =>
      match cutAt? ['='] name with
      | some (n, v) => (Unicode.propertyValue? n v).map (·, false)
      | none => (Unicode.propertyNamed? name).map (·, false)

/-- Reads what follows the letter of a property: one letter, or a name in braces. -/
def propertyEscape? (fs : Flags) (negated : Bool) (cs : List Char) : Option (Primitive × List Char) := do
  let ((s, differs), rest) ← match skip fs cs with
    | [] => none
    | '\\' :: _ => none
    | '\x7b' :: r =>
      let (name, rest) := takeAll fs (· != '\x7d') (skip fs r)
      match rest with
      | _ :: rest => (propertySet? name).map (·, rest)
      | [] => none
    | c :: r => (Unicode.propertyNamed? [c]).map fun s => ((s, false), skip fs r)
  if !fs.unicode then none
  else return (.set (← fs.negateIf? (negated != differs) (fs.fold s)), rest)

/-- Whether a character may stand in the name of a word boundary. -/
def isBoundaryChar (c : Char) : Bool := c.isAlpha || c == '-'

/-- Reads the name of a word boundary in braces after its letter. Braces that start otherwise belong to a repetition and are left. -/
def boundaryName? (fs : Flags) (cs : List Char) : Option (Boundary × List Char) :=
  match cs with
  | '\x7b' :: r =>
    match skip fs r with
    | [] => none
    | c :: r' =>
      if !isBoundaryChar c then some (.edge, cs)
      else
        let (name, rest) := takeAll fs isBoundaryChar (c :: r')
        match rest with
        | '\x7d' :: rest =>
          match String.ofList name with
          | "start" => some (.start, rest)
          | "end" => some (.finish, rest)
          | "start-half" => some (.halfStart, rest)
          | "end-half" => some (.halfFinish, rest)
          | _ => none
        | _ => none
  | _ => some (.edge, cs)

/-- The character that an escape of one letter stands for. -/
def controlEscape? (c : Char) : Option Char :=
  match c with
  | 'a' => some '\x07'
  | 'f' => some '\x0c'
  | 't' => some '\t'
  | 'n' => some '\n'
  | 'r' => some '\r'
  | 'v' => some '\x0b'
  | _ => none

/-- Reads what follows a backslash. Every ASCII character that is neither a letter nor a digit nor an angle bracket stands for itself. -/
def escape? (fs : Flags) : List Char → Option (Primitive × List Char)
  | [] => none
  | c :: cs =>
    if c.isDigit then none
    else if c = 'x' ∨ c = 'u' ∨ c = 'U' then hexEscape? fs c cs
    else if c = 'p' ∨ c = 'P' then propertyEscape? fs (c == 'P') cs
    else if "dswDSW".toList.contains c then (fs.letterClass? c).map (.set ·, cs)
    else if c = 'A' then some (.look .textStart, cs)
    else if c = 'z' then some (.look .textEnd, cs)
    else if c = 'b' then (boundaryName? fs cs).map fun p => (.look (fs.boundary p.1), p.2)
    else if c = 'B' then some (.look (fs.boundary .noEdge), cs)
    else if c = '<' then some (.look (fs.boundary .start), cs)
    else if c = '>' then some (.look (fs.boundary .finish), cs)
    else if c.isAlpha then (controlEscape? c).map fun d => (.char d false, cs)
    else if c.toNat < 0x80 then some (.char c false, cs)
    else none

/-! ## Numbers of repetitions -/

/-- Reads a number below `2 ^ 32`, with blanks around it. -/
def decimal? (fs : Flags) (cs : List Char) : Option Nat × List Char :=
  let (ds, rest) := takeAll fs Char.isDigit (cs.dropWhile Text.isBlankChar)
  let (_, rest) := takeAll fs Text.isBlankChar rest
  let n := ds.foldl (fun n d => n * 10 + (d.toNat - '0'.toNat)) 0
  (if ds.isEmpty || Nat.pow 2 32 ≤ n then none else some n, rest)

/-- Reads what follows the opening brace of a repetition: the least and the largest number of times. -/
def bounds? (fs : Flags) (cs : List Char) : Option ((Nat × Option Nat) × List Char) := do
  let (low, rest) := decimal? fs (skip fs cs)
  let low ← low
  match rest with
  | '\x7d' :: r => return ((low, some low), r)
  | ',' :: r =>
    match skip fs r with
    | '\x7d' :: r => return ((low, none), r)
    | r =>
      let (high, rest) := decimal? fs r
      let high ← high
      match rest with
      | '\x7d' :: r => if low ≤ high then return ((low, some high), r) else none
      | _ => none
  | _ => none

/-! ## Groups -/

/-- Sets the flags of a list of characters; `seen` are the flags read so far, and `negated` is set after a hyphen. A flag may not be
repeated, there is one hyphen at most, and a flag follows it. Gives the character that ends the list, too. -/
def flagsUpTo? (fs : Flags) (seen : List Flag) (negated : Bool) (last : Char) : List Char → Option ((Flags × Char × Bool) × List Char)
  | [] => none
  | c :: cs =>
    if c = ':' ∨ c = ')' then
      if last = '-' then none else some ((fs, c, !seen.isEmpty), cs)
    else if c = '-' then if negated then none else flagsUpTo? fs seen true c cs
    else
      match Flag.ofChar? c with
      | none => none
      | some f => if f ∈ seen then none else flagsUpTo? (fs.set f !negated) (f :: seen) negated c cs

/-- Whether a character may stand in the name of a group. -/
def isNameChar (first : Bool) (c : Char) : Bool :=
  c == '_' ||
    if first then Unicode.letters.contains c.toNat
    else c == '.' || c == '[' || c == ']' || Unicode.lettersAndNumbers.contains c.toNat

/-- Reads the name of a group up to the angle bracket. -/
def groupName? (cs : List Char) : Option ((List Char) × List Char) :=
  let name := cs.takeWhile (· != '>')
  match cs.dropWhile (· != '>'), name with
  | _ :: rest, c :: more => if isNameChar true c && more.all (isNameChar false) then some (name, rest) else none
  | _, _ => none

/-- What an opening parenthesis starts: a group with or without a name that is captured, a group under flags, or flags for the rest of
the group that it stands in. -/
inductive Opening where
  | capture (name : Option (List Char))
  | plain (fs : Flags)
  | flags (fs : Flags)
deriving Repr

/-- Reads what follows an opening parenthesis. Looking around is not known. -/
def opening? (fs : Flags) (cs : List Char) : Option (Opening × List Char) :=
  match skip fs cs with
  | '?' :: '=' :: _ => none
  | '?' :: '!' :: _ => none
  | '?' :: '<' :: '=' :: _ => none
  | '?' :: '<' :: '!' :: _ => none
  | '?' :: 'P' :: '<' :: r => (groupName? r).map fun p => (.capture (some p.1), p.2)
  | '?' :: '<' :: r => (groupName? r).map fun p => (.capture (some p.1), p.2)
  | '?' :: r => do
    let ((fs, last, some_), rest) ← flagsUpTo? fs [] false '?' r
    if last = ':' then return (.plain fs, rest)
    else if some_ then return (.flags fs, rest)
    else none
  | r => some (.capture none, r)

end Webform.Pattern
