import Webform.Unicode.Property

/-!
# Regular expressions

What a pattern means, once its flags, classes and names are resolved: a regular expression over sets of characters, with tests of
the place in the text (`Look`). `Expr.Matches` is the relation between an expression and the parts of a text that it matches.
-/

namespace Webform.Pattern

open Unicode (CharSet)

/-- Which characters make words: all that count as such, or the ASCII ones alone. -/
inductive WordRule where
  | unicode
  | ascii
deriving DecidableEq, Repr

/-- The part of a word boundary that is tested. -/
inductive Boundary where
  | edge
  | noEdge
  | start
  | finish
  | halfStart
  | halfFinish
deriving DecidableEq, Repr

/-- A test of a place in the text; it takes no characters. -/
inductive Look where
  | textStart
  | textEnd
  | lineStart
  | lineEnd
  /-- The start of a line, where a carriage return before a line feed does not end a line by itself. -/
  | crlfStart
  | crlfEnd
  | word (b : Boundary) (rule : WordRule)
deriving DecidableEq, Repr

/-- The ASCII characters of words. -/
def asciiWord : CharSet := .ofRanges [(0x30, 0x39), (0x41, 0x5A), (0x5F, 0x5F), (0x61, 0x7A)]

/-- Whether there is a character and it is one of words. -/
def WordRule.isWord (rule : WordRule) : Option Char → Bool
  | none => false
  | some c =>
    match rule with
    | .unicode => Unicode.wordChars.contains c.toNat
    | .ascii => asciiWord.contains c.toNat

/-- Whether a boundary lies between two characters, of which either may be missing at an end of the text. -/
def Boundary.holds (b : Boundary) (rule : WordRule) (before after : Option Char) : Bool :=
  match b with
  | edge => rule.isWord before != rule.isWord after
  | noEdge => rule.isWord before == rule.isWord after
  | start => !rule.isWord before && rule.isWord after
  | finish => rule.isWord before && !rule.isWord after
  | halfStart => !rule.isWord before
  | halfFinish => !rule.isWord after

/-- Whether a test holds between two characters, of which either is missing at an end of the text. -/
def Look.holds (l : Look) (before after : Option Char) : Bool :=
  match l with
  | textStart => before.isNone
  | textEnd => after.isNone
  | lineStart => before.isNone || before == some '\n'
  | lineEnd => after.isNone || after == some '\n'
  | crlfStart => before.isNone || before == some '\n' || (before == some '\r' && after != some '\n')
  | crlfEnd => after.isNone || after == some '\r' || (after == some '\n' && before != some '\r')
  | word b rule => b.holds rule before after

/-- A regular expression. Groups, and whether a repetition is greedy, change nothing in what is matched; they keep the structure of the
pattern, on which the size of the pattern's automaton depends. -/
inductive Expr where
  | empty
  | one (s : CharSet)
  | look (l : Look)
  | seq (a b : Expr)
  | alt (a b : Expr)
  | rep (min : Nat) (max : Option Nat) (greedy : Bool) (e : Expr)
  | group (captures : Bool) (e : Expr)
deriving DecidableEq, Repr, Inhabited

/-- The character before a place of the text. -/
def before? (text : List Char) (i : Nat) : Option Char := if i = 0 then none else text[i - 1]?

mutual

/-- `Matches text e i j`: the expression matches the characters of the text from place `i` to place `j`. -/
inductive Expr.Matches (text : List Char) : Expr → Nat → Nat → Prop where
  | empty (i : Nat) : Matches text .empty i i
  | one (s : CharSet) (i : Nat) (c : Char) : text[i]? = some c → s.contains c.toNat = true → Matches text (.one s) i (i + 1)
  | look (l : Look) (i : Nat) : l.holds (before? text i) text[i]? = true → Matches text (.look l) i i
  | seq (a b : Expr) (i j k : Nat) : Matches text a i j → Matches text b j k → Matches text (.seq a b) i k
  | left (a b : Expr) (i j : Nat) : Matches text a i j → Matches text (.alt a b) i j
  | right (a b : Expr) (i j : Nat) : Matches text b i j → Matches text (.alt a b) i j
  | rep (min : Nat) (max : Option Nat) (greedy : Bool) (e : Expr) (n i j : Nat) :
      min ≤ n → (∀ m, max = some m → n ≤ m) → Times text e n i j → Matches text (.rep min max greedy e) i j
  | group (captures : Bool) (e : Expr) (i j : Nat) : Matches text e i j → Matches text (.group captures e) i j

/-- `Times text e n i j`: the expression matches `n` times in a row from place `i` to place `j`. -/
inductive Expr.Times (text : List Char) : Expr → Nat → Nat → Nat → Prop where
  | zero (e : Expr) (i : Nat) : Times text e 0 i i
  | succ (e : Expr) (n i j k : Nat) : Matches text e i j → Times text e n j k → Times text e (n + 1) i k

end

end Webform.Pattern
