import Webform.Pattern.Expr

/-!
# Flags

The flags of a pattern and what the smallest pieces of a pattern mean under them. In Unicode mode a piece may mean any set of
characters. Outside it only ASCII characters may be told apart, so a piece that would also take parts of other characters has no
meaning.
-/

namespace Webform.Pattern

open Unicode (CharSet)

/-- The flags in force at a place of a pattern. -/
structure Flags where
  ignoreCase : Bool := false
  multiLine : Bool := false
  dotAll : Bool := false
  crlf : Bool := false
  unicode : Bool := true
  verbose : Bool := false
  swapGreed : Bool := false
deriving DecidableEq, Repr

/-- A flag as it is written. -/
inductive Flag where
  | ignoreCase
  | multiLine
  | dotAll
  | swapGreed
  | unicode
  | crlf
  | verbose
deriving DecidableEq, Repr

def Flag.ofChar? (c : Char) : Option Flag :=
  match c with
  | 'i' => some ignoreCase
  | 'm' => some multiLine
  | 's' => some dotAll
  | 'U' => some swapGreed
  | 'u' => some unicode
  | 'R' => some crlf
  | 'x' => some verbose
  | _ => none

namespace Flags

/-- Sets a flag. -/
def set (fs : Flags) (f : Flag) (on : Bool) : Flags :=
  match f with
  | .ignoreCase => { fs with ignoreCase := on }
  | .multiLine => { fs with multiLine := on }
  | .dotAll => { fs with dotAll := on }
  | .swapGreed => { fs with swapGreed := on }
  | .unicode => { fs with unicode := on }
  | .crlf => { fs with crlf := on }
  | .verbose => { fs with verbose := on }

/-- The ASCII letters of a set in both cases. -/
def closeAsciiCase (s : CharSet) : CharSet :=
  let lower := (s.inter (.range 0x41 0x5A)).ranges.map fun r => (r.1 + 0x20, r.2 + 0x20)
  let upper := (s.inter (.range 0x61 0x7A)).ranges.map fun r => (r.1 - 0x20, r.2 - 0x20)
  .ofRanges (s.ranges ++ lower ++ upper)

/-- Adds to a set what is the same up to case, if case is to be ignored. -/
def fold (fs : Flags) (s : CharSet) : CharSet :=
  if !fs.ignoreCase then s
  else if fs.unicode then s.closeCase
  else closeAsciiCase s

/-- The complement of a set, which takes all characters beyond ASCII and so exists in Unicode mode only. -/
def negate? (fs : Flags) (s : CharSet) : Option CharSet :=
  if fs.unicode then some s.complement else none

/-- A set or its complement. -/
def negateIf? (fs : Flags) (negated : Bool) (s : CharSet) : Option CharSet :=
  if negated then fs.negate? s else some s

/-- The characters that a letter stands for: itself, and those that are the same up to case if case is ignored. Outside Unicode mode
the case of other letters than the ASCII ones stays as it is. -/
def letter (fs : Flags) (c : Char) : CharSet :=
  if fs.unicode || c.toNat < 0x80 then fs.fold (.singleton c.toNat) else .singleton c.toNat

/-- The characters that a dot stands for. -/
def dot? (fs : Flags) : Option CharSet :=
  if !fs.unicode then none
  else if fs.dotAll then some .all
  else if fs.crlf then some (CharSet.ofRanges [(0x0A, 0x0A), (0x0D, 0x0D)]).complement
  else some (CharSet.singleton 0x0A).complement

/-- The start of the text, or of a line. -/
def start (fs : Flags) : Look :=
  if !fs.multiLine then .textStart else if fs.crlf then .crlfStart else .lineStart

/-- The end of the text, or of a line. -/
def finish (fs : Flags) : Look :=
  if !fs.multiLine then .textEnd else if fs.crlf then .crlfEnd else .lineEnd

/-- A test for a word boundary. -/
def boundary (fs : Flags) (b : Boundary) : Look := .word b (if fs.unicode then .unicode else .ascii)

/-- The classes that one letter names: digits, blanks and the characters of words, and in upper case their complements. -/
def letterClass? (fs : Flags) (c : Char) : Option CharSet :=
  let (lower, negated) := (c.toLower, c.isUpper)
  let cls :=
    if lower = 'd' then if fs.unicode then Unicode.digits else .range 0x30 0x39
    else if lower = 's' then if fs.unicode then Unicode.blanks else .ofRanges [(0x09, 0x0D), (0x20, 0x20)]
    else if fs.unicode then Unicode.wordChars else asciiWord
  fs.negateIf? negated cls

/-- The ASCII classes that have a name. -/
def asciiClass? (name : List Char) : Option CharSet :=
  let ranges? : Option (List (Nat × Nat)) := match String.ofList name with
    | "alnum" => some [(0x30, 0x39), (0x41, 0x5A), (0x61, 0x7A)]
    | "alpha" => some [(0x41, 0x5A), (0x61, 0x7A)]
    | "ascii" => some [(0x00, 0x7F)]
    | "blank" => some [(0x09, 0x09), (0x20, 0x20)]
    | "cntrl" => some [(0x00, 0x1F), (0x7F, 0x7F)]
    | "digit" => some [(0x30, 0x39)]
    | "graph" => some [(0x21, 0x7E)]
    | "lower" => some [(0x61, 0x7A)]
    | "print" => some [(0x20, 0x7E)]
    | "punct" => some [(0x21, 0x2F), (0x3A, 0x40), (0x5B, 0x60), (0x7B, 0x7E)]
    | "space" => some [(0x09, 0x0D), (0x20, 0x20)]
    | "upper" => some [(0x41, 0x5A)]
    | "word" => some asciiWord.ranges
    | "xdigit" => some [(0x30, 0x39), (0x41, 0x46), (0x61, 0x66)]
    | _ => none
  ranges?.map .ofRanges

end Flags

end Webform.Pattern
