import Webform.Pattern.Token

/-!
# Classes in brackets

A class lists characters, ranges, named classes and other classes in brackets, and joins such lists by intersection, difference and
symmetric difference, from left to right. Reading one gives its set and how deep its parts are nested, which counts towards the
limit on nesting.
-/

namespace Webform.Pattern

open Unicode (CharSet)

/-- An operator between the lists of a class. -/
inductive ClassOp where
  | inter
  | diff
  | symmDiff
deriving DecidableEq, Repr

def ClassOp.apply (op : ClassOp) (a b : CharSet) : CharSet :=
  match op with
  | inter => a.inter b
  | diff => a.diff b
  | symmDiff => a.symmDiff b

/-- A set with the depth of nesting of what it was read from. -/
structure Nested where
  set : CharSet := .empty
  depth : Nat := 0
deriving Repr, Inhabited

/-- The list of a class that is under way: the set so far, the number of its entries, and the depth of the deepest. -/
structure ClassList where
  set : CharSet := .empty
  count : Nat := 0
  depth : Nat := 0
deriving Repr, Inhabited

/-- Adds an entry to a list. -/
def ClassList.push (l : ClassList) (n : Nested) : ClassList := ⟨l.set.union n.set, l.count + 1, max l.depth n.depth⟩

/-- The whole list. Two or more entries are a level of nesting of their own. -/
def ClassList.close (l : ClassList) : Nested := ⟨l.set, if l.count ≤ 1 then l.depth else l.depth + 1⟩

/-- What surrounds the list that is under way: a bracket, with the list outside it, or an operator with what stands left of it. -/
inductive ClassFrame where
  | bracket (outer : ClassList) (negated : Bool)
  | operand (op : ClassOp) (left : Nested)
deriving Repr

/-- Applies the operator before a finished list, if there is one; case is ignored on both sides of it. -/
def applyOperator (fs : Flags) (frames : List ClassFrame) (right : Nested) : Nested × List ClassFrame :=
  match frames with
  | .operand op left :: rest =>
    (⟨op.apply (fs.fold left.set) (fs.fold right.set), max left.depth right.depth + 1⟩, rest)
  | frames => (right, frames)

/-- The set of a character in a class; outside Unicode mode only ASCII characters may stand there. -/
def classChar? (fs : Flags) (c : Char) : Option Nat :=
  if fs.unicode || c.toNat < 0x80 then some c.toNat else none

/-- Reads a character or an escape in a class. -/
def classItem? (fs : Flags) : List Char → Option (Primitive × List Char)
  | [] => none
  | '\\' :: r => escape? fs r
  | c :: r => some (.char c false, r)

/-- The set of a single item. -/
def Primitive.set? (fs : Flags) : Primitive → Option CharSet
  | char c _ => (classChar? fs c).map .singleton
  | set s => some s
  | look _ => none

/-- Looks past blanks, and past the mark of one comment, for the character after a hyphen; where there is nothing else, the blank or
mark itself counts. -/
def peekPast (marked : Bool) : List Char → Option Char
  | [] => none
  | c :: cs =>
    if Text.isBlankChar c then peekPast marked cs
    else if c = '#' ∧ !marked then peekPast true cs
    else some c

/-- The character after a hyphen. -/
def peek? (fs : Flags) (cs : List Char) : Option Char :=
  if !fs.verbose then cs.head? else (peekPast false cs).or cs.head?

/-- Reads a single item or a range. A hyphen before a closing bracket or before another hyphen makes no range. -/
def classRange? (fs : Flags) (cs : List Char) : Option (CharSet × List Char) := do
  let (first, rest) ← classItem? fs cs
  match skip fs rest with
  | [] => none
  | '-' :: r =>
    if peek? fs r = some ']' ∨ peek? fs r = some '-' then return (← first.set? fs, '-' :: r)
    else
      let (second, rest) ← classItem? fs (skip fs r)
      match first, second with
      | .char a _, .char b _ =>
        if a ≤ b then return (.range (← classChar? fs a) (← classChar? fs b), rest) else none
      | _, _ => none
  | r => return (← first.set? fs, r)

/-- Reads the name of an ASCII class up to the bracket that closes it: the class, whether it is negated, and the text after it. -/
def className? (negated : Bool) (cs : List Char) : Option (CharSet × Bool × List Char) :=
  match cs.dropWhile (· != ':') with
  | ':' :: ']' :: rest => (Flags.asciiClass? (cs.takeWhile (· != ':'))).map (·, negated, rest)
  | _ => none

/-- Reads a named ASCII class after its opening bracket. -/
def asciiClassAfter? (cs : List Char) : Option (CharSet × Bool × List Char) :=
  match cs with
  | ':' :: '^' :: r => className? true r
  | ':' :: r => className? false r
  | _ => none

/-- Takes hyphens at the start of a class as characters. -/
def leadingHyphens (fs : Flags) : Nat → ClassList → List Char → ClassList × List Char
  | 0, l, cs => (l, cs)
  | n + 1, l, cs =>
    match cs with
    | '-' :: r => leadingHyphens fs n (l.push ⟨.singleton 0x2D, 0⟩) (skip fs r)
    | cs => (l, cs)

/-- Reads the start of a class, its mark of negation being read: the hyphens or the closing bracket that stand first and count as
characters. -/
def classStart? (fs : Flags) (negated : Bool) (cs : List Char) : Option (Bool × ClassList × List Char) :=
  match leadingHyphens fs cs.length {} cs with
  | (_, []) => none
  | (l, ']' :: r) =>
    if l.count = 0 then
      match skip fs r with
      | [] => none
      | r => some (negated, l.push ⟨.singleton 0x5D, 0⟩, r)
    else some (negated, l, ']' :: r)
  | (l, cs) => some (negated, l, cs)

/-- Reads what follows an opening bracket up to its first ordinary entry: whether the class is negated, and its list so far. -/
def classOpening? (fs : Flags) (cs : List Char) : Option (Bool × ClassList × List Char) :=
  match skip fs cs with
  | '^' :: r => classStart? fs true (skip fs r)
  | r => classStart? fs false r

/-- How far a class has been read: within its brackets, or up to the end of the outermost one. -/
inductive ClassProgress where
  | within (frames : List ClassFrame) (l : ClassList)
  | closed (n : Nested)
deriving Repr

/-- Reads what follows a bracket inside a class: the name of an ASCII class, which does not stand outermost, or the start of a class. -/
def classBracket? (fs : Flags) (frames : List ClassFrame) (l : ClassList) (cs : List Char) : Option (ClassProgress × List Char) :=
  match if frames.isEmpty then none else asciiClassAfter? cs with
  | some (s, negated, rest) => (fs.negateIf? negated (fs.fold s)).map fun s => (.within frames (l.push ⟨s, 0⟩), rest)
  | none => (classOpening? fs cs).map fun (negated, inner, rest) => (.within (.bracket l negated :: frames) inner, rest)

/-- Ends the bracket under way. -/
def closeBracket? (fs : Flags) (frames : List ClassFrame) (l : ClassList) : Option ClassProgress :=
  let (whole, frames) := applyOperator fs frames l.close
  match frames with
  | .bracket outer negated :: frames =>
    (fs.negateIf? negated (fs.fold whole.set)).map fun s =>
      let nested : Nested := ⟨s, whole.depth + 1⟩
      if frames.isEmpty then .closed nested else .within frames (outer.push nested)
  | _ => none

/-- Starts the list after an operator. -/
def startOperand (fs : Flags) (op : ClassOp) (frames : List ClassFrame) (l : ClassList) : ClassProgress :=
  let (left, frames) := applyOperator fs frames l.close
  .within (.operand op left :: frames) {}

/-- Reads one entry, bracket or operator of a class. -/
def classStep? (fs : Flags) (frames : List ClassFrame) (l : ClassList) (cs : List Char) : Option (ClassProgress × List Char) :=
  match skip fs cs with
  | [] => none
  | '[' :: r => classBracket? fs frames l r
  | ']' :: r => (closeBracket? fs frames l).map (·, r)
  | '&' :: '&' :: r => some (startOperand fs .inter frames l, r)
  | '-' :: '-' :: r => some (startOperand fs .diff frames l, r)
  | '~' :: '~' :: r => some (startOperand fs .symmDiff frames l, r)
  | cs => (classRange? fs cs).map fun p => (.within frames (l.push ⟨p.1, 0⟩), p.2)

/-- Reads the rest of a class, up to the end of its outermost bracket. Each round reads at least one character. -/
def classWithin? (fs : Flags) : Nat → List ClassFrame → ClassList → List Char → Option (Nested × List Char)
  | 0, _, _, _ => none
  | n + 1, frames, l, cs =>
    match classStep? fs frames l cs with
    | none => none
    | some (.closed x, rest) => some (x, rest)
    | some (.within frames l, rest) => classWithin? fs n frames l rest

/-- Reads a class from its opening bracket on. -/
def class? (fs : Flags) (cs : List Char) : Option (Nested × List Char) :=
  classWithin? fs (cs.length + 1) [] {} cs

end Webform.Pattern
