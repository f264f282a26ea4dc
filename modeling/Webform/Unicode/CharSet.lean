/-!
# Sets of characters

A set of code points as a list of closed ranges. The functions here give lists in normal form: the ranges ascend, no two of them
touch, and none holds a surrogate, since surrogates are not characters. Tables of character data are written as text, ranges of
hexadecimal numbers between blanks (`CharSet.ofText`).
-/

namespace Webform.Unicode

/-- A set of code points, as closed ranges. -/
structure CharSet where
  ranges : List (Nat × Nat)
deriving DecidableEq, Repr, Inhabited

namespace CharSet

/-- The set without members. -/
def empty : CharSet := ⟨[]⟩

/-- All characters: the code points that are not surrogates. -/
def all : CharSet := ⟨[(0, 0xD7FF), (0xE000, 0x10FFFF)]⟩

def isEmpty (s : CharSet) : Bool := s.ranges.isEmpty

/-- Whether a code point is in the set. -/
def contains (s : CharSet) (n : Nat) : Bool :=
  s.ranges.any fun r => r.1 ≤ n && n ≤ r.2

/-- Joins touching ranges of an ascending list, `lo` to `hi` being the range under way. -/
def joinFrom (lo hi : Nat) : List (Nat × Nat) → List (Nat × Nat)
  | [] => [(lo, hi)]
  | (a, b) :: rest => if a ≤ hi + 1 then joinFrom lo (max hi b) rest else (lo, hi) :: joinFrom a b rest

/-- The parts of a range outside the surrogates. -/
def splitSurrogates (r : Nat × Nat) : List (Nat × Nat) :=
  (if r.1 ≤ min r.2 0xD7FF then [(r.1, min r.2 0xD7FF)] else []) ++
    (if max r.1 0xE000 ≤ r.2 then [(max r.1 0xE000, r.2)] else [])

/-- Whether each range starts where the one before it does, or later. -/
def isAscending : List (Nat × Nat) → Bool
  | r :: s :: rest => r.1 ≤ s.1 && isAscending (s :: rest)
  | _ => true

/-- The set that covers a list of ranges, in any order; a range whose end is before its start covers nothing. -/
def ofRanges (rs : List (Nat × Nat)) : CharSet :=
  let parts := rs.flatMap splitSurrogates
  match if isAscending parts then parts else parts.mergeSort fun a b => a.1 ≤ b.1 with
  | [] => ⟨[]⟩
  | (a, b) :: rest => ⟨joinFrom a b rest⟩

def singleton (n : Nat) : CharSet := ofRanges [(n, n)]

def range (lo hi : Nat) : CharSet := ofRanges [(lo, hi)]

def union (a b : CharSet) : CharSet := ofRanges (a.ranges ++ b.ranges)

/-- The gaps of an ascending list of ranges, from `start` on. -/
def gapsFrom (start : Nat) : List (Nat × Nat) → List (Nat × Nat)
  | [] => [(start, 0x10FFFF)]
  | (a, b) :: rest => if start < a then (start, a - 1) :: gapsFrom (b + 1) rest else gapsFrom (b + 1) rest

/-- The characters that are not in the set. -/
def complement (s : CharSet) : CharSet := ofRanges (gapsFrom 0 s.ranges)

def inter (a b : CharSet) : CharSet := (a.complement.union b.complement).complement

def diff (a b : CharSet) : CharSet := a.inter b.complement

def symmDiff (a b : CharSet) : CharSet := (a.union b).diff (a.inter b)

/-- The only member, where there is just one. -/
def single? (s : CharSet) : Option Nat :=
  match s.ranges with
  | [(a, b)] => if a = b then some a else none
  | _ => none

/-- Whether all members are below `0x80`. -/
def isAscii (s : CharSet) : Bool := s.ranges.all fun r => r.2 < 0x80

/-! ## Tables -/

/-- The value of a hexadecimal digit. -/
def hexDigit? (c : Char) : Option Nat :=
  if '0' ≤ c ∧ c ≤ '9' then some (c.toNat - '0'.toNat)
  else if 'A' ≤ c ∧ c ≤ 'F' then some (c.toNat - 'A'.toNat + 10)
  else if 'a' ≤ c ∧ c ≤ 'f' then some (c.toNat - 'a'.toNat + 10)
  else none

/-- What has been read of a table: the ranges so far, last first, the start of the range under way once its hyphen was seen, and
the number under way. -/
structure TableState where
  ranges : List (Nat × Nat) := []
  low : Option Nat := none
  number : Option Nat := none

/-- Ends the range under way. -/
def TableState.close (st : TableState) : TableState :=
  match st.number with
  | none => st
  | some n => { ranges := (st.low.getD n, n) :: st.ranges }

/-- Reads one character of a table: digits lengthen the number, a hyphen ends the start of a range, anything else the range. -/
def TableState.step (st : TableState) (c : Char) : TableState :=
  match hexDigit? c with
  | some d => { st with number := some (st.number.getD 0 * 16 + d) }
  | none => if c = '-' then { st with low := st.number, number := none } else st.close

/-- The ranges of a table's text, such as `41-5A 61-7A AA`, in order. -/
def rangesOfText (text : String) : List (Nat × Nat) :=
  (text.toList.foldl TableState.step {}).close.ranges.reverse

/-- The set a table's text lists. -/
def ofText (text : String) : CharSet := ofRanges (rangesOfText text)

end CharSet

/-- A table of sets by name: each entry has its names, between blanks, and the text of its ranges. -/
abbrev Table := List (String × String)

/-- The text of the entry with a name. -/
def Table.text? (t : Table) (name : String) : Option String :=
  (t.find? fun e => (e.1.splitOn " ").contains name).map (·.2)

/-- The set with a name. -/
def Table.find? (t : Table) (name : String) : Option CharSet :=
  (t.text? name).map .ofText

end Webform.Unicode
