import Webform.Pattern.Expr

/-!
# Searching a text

Whether an expression matches some part of a text. Sets of places of the text are kept as natural numbers, the place `i` being the
bit of weight `2 ^ i`; a number beyond the text's length has no meaning. `Expr.along` resolves the classes and tests of an
expression for one text, and `Route.ends` tells which places are reached from a set of places.
-/

namespace Webform.Pattern

open Unicode (CharSet)

/-- A set of places of a text, as the bits of a number. -/
abbrev Places := Nat

/-- An expression as it lies along one text: which places a character may be taken at, and which places pass a test. -/
inductive Route where
  | stay
  | take (places : Places)
  | test (places : Places)
  | seq (a b : Route)
  | alt (a b : Route)
  | rep (min : Nat) (max : Option Nat) (r : Route)
deriving Repr, Inhabited

/-- The places from `i` on that pass a test of the characters before and after them. -/
def placesWhere (p : Option Char → Option Char → Bool) (before : Option Char) (i : Nat) : List Char → Places
  | [] => if p before none then Nat.pow 2 i else 0
  | c :: cs => (if p before (some c) then Nat.pow 2 i else 0) ||| placesWhere p (some c) (i + 1) cs

/-- The places at which a character of a set stands. -/
def placesOf (s : CharSet) (text : List Char) : Places :=
  placesWhere (fun _ after => match after with
    | some c => s.contains c.toNat
    | none => false) none 0 text

/-- An expression along a text. -/
def Expr.along (text : List Char) : Expr → Route
  | empty => .stay
  | one s => .take (placesOf s text)
  | look l => .test (placesWhere l.holds none 0 text)
  | seq a b => .seq (a.along text) (b.along text)
  | alt a b => .alt (a.along text) (b.along text)
  | rep min max _ e => .rep min max (e.along text)
  | group _ e => e.along text

/-- Applies a step a number of times, stopping when it changes nothing any more. -/
def iterate (step : Places → Places) : Nat → Places → Places
  | 0, s => s
  | n + 1, s =>
    let t := step s
    if t = s then s else iterate step n t

/-- The places reached by at most a number of steps, `seen` being those reached and `fresh` those reached last. -/
def spread (step : Places → Places) : Nat → Places → Places → Places
  | 0, seen, _ => seen
  | n + 1, seen, fresh =>
    let next := step fresh
    let new := next ^^^ (next &&& seen)
    if new = 0 then seen else spread step n (seen ||| new) new

/-- The places at which a match can end that starts at one of the given places of a text of the given length. -/
def Route.ends (length : Nat) : Route → Places → Places
  | stay, s => s
  | take p, s => (s &&& p) <<< 1
  | test p, s => s &&& p
  | seq a b, s => b.ends length (a.ends length s)
  | alt a b, s => a.ends length s ||| b.ends length s
  | rep min max r, s =>
    let start := iterate (r.ends length) min s
    let more := match max with
      | some m => Nat.min (m - min) (length + 1)
      | none => length + 1
    spread (r.ends length) more start start

/-- Whether an expression matches some part of a text. -/
def Expr.search (e : Expr) (text : List Char) : Bool :=
  (e.along text).ends text.length (Nat.pow 2 (text.length + 1) - 1) != 0

end Webform.Pattern
