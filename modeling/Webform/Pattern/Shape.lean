import Webform.Pattern.Expr

/-!
# Shapes of expressions

The size of a pattern's automaton depends on the expression in simplified form, its `Shape`: runs of characters are joined, sequences
and alternatives have no sequences and alternatives as direct parts, a start that all alternatives share stands before them once, and
groups that capture nothing are gone.
-/

namespace Webform.Pattern

open Unicode (CharSet)

/-- An expression in simplified form. -/
inductive Shape where
  | empty
  | literal (chars : List Nat)
  | cls (s : CharSet)
  | look (l : Look)
  | rep (min : Nat) (max : Option Nat) (greedy : Bool) (e : Shape)
  | capture (e : Shape)
  | cat (parts : List Shape)
  | alt (parts : List Shape)
deriving Repr, Inhabited

/-- The number of bytes of a character. -/
def utf8Length (n : Nat) : Nat := if n < 0x80 then 1 else if n < 0x800 then 2 else if n < 0x10000 then 3 else 4

/-- What the members of a list count together. -/
def total {α : Type} (count : α → Nat) : List α → Nat
  | [] => 0
  | a :: as => count a + total count as

namespace Shape

/-- A set as a shape: a character where it has only one member. -/
def ofSet (s : CharSet) : Shape :=
  match s.single? with
  | some n => .literal [n]
  | none => .cls s

/-! ## Properties -/

mutual

/-- Whether all that is matched is empty. -/
def isZeroWidth : Shape → Bool
  | empty | look _ => true
  | literal cs => cs.isEmpty
  | cls _ => false
  | rep _ max _ e => max.isSome && e.isZeroWidth
  | capture e => e.isZeroWidth
  | cat ps | alt ps => areZeroWidth ps

/-- Whether all that some shapes match is empty. -/
def areZeroWidth : List Shape → Bool
  | [] => true
  | p :: ps => p.isZeroWidth && areZeroWidth ps

end

mutual

/-- The least number of bytes that are matched. It is not known of what has a part that matches nothing at all. -/
def minLength? : Shape → Option Nat
  | empty | look _ => some 0
  | literal cs => some (total utf8Length cs)
  | cls s => s.ranges.head?.map fun r => utf8Length r.1
  | rep min _ _ e => e.minLength?.map (min * ·)
  | capture e => e.minLength?
  | cat ps => (minLengths? ps).map (total id)
  | alt ps => (minLengths? ps).bind List.min?

/-- The least numbers of bytes that some shapes match, if all are known. -/
def minLengths? : List Shape → Option (List Nat)
  | [] => some []
  | p :: ps =>
    match p.minLength?, minLengths? ps with
    | some n, some ns => some (n :: ns)
    | _, _ => none

end

/-- Whether it has to be reckoned with that something empty is matched. -/
def canBeEmpty (e : Shape) : Bool := e.minLength?.getD 0 == 0

/-- Whether a test is made for sure before the first character: it is made in one of the parts up to the first that takes any. A part
is told by whether it takes none and whether it makes the test. -/
def leads : List (Bool × Bool) → Bool
  | [] => false
  | (zeroWidth, tests) :: rest => tests || (zeroWidth && leads rest)

mutual

/-- Whether all matches begin where the text does, or end where it does. -/
def isAnchored (atEnd : Bool) : Shape → Bool
  | empty | literal _ | cls _ => false
  | look l => l == if atEnd then .textEnd else .textStart
  | rep min _ _ e => 0 < min && e.isAnchored atEnd
  | capture e => e.isAnchored atEnd
  | cat ps => leads (if atEnd then (anchors atEnd ps).reverse else anchors atEnd ps)
  | alt ps => (anchors atEnd ps).all (·.2)

/-- Whether parts take no characters, and whether they are anchored. -/
def anchors (atEnd : Bool) : List Shape → List (Bool × Bool)
  | [] => []
  | p :: ps => (p.isZeroWidth, p.isAnchored atEnd) :: anchors atEnd ps

end

mutual

/-- Whether two shapes in different places are the same. Groups that capture never are, since each has a number of its own. -/
def same : Shape → Shape → Bool
  | empty, empty => true
  | literal cs, literal ds => cs == ds
  | cls s, cls t => s == t
  | look l, look m => l == m
  | rep min max greedy e, rep min' max' greedy' e' => min == min' && max == max' && greedy == greedy' && e.same e'
  | cat ps, cat qs => sameParts ps qs
  | alt ps, alt qs => sameParts ps qs
  | _, _ => false

/-- Whether two lists have the same shapes, one by one. -/
def sameParts : List Shape → List Shape → Bool
  | [], [] => true
  | p :: ps, q :: qs => p.same q && sameParts ps qs
  | _, _ => false

end

/-! ## Repetitions and sequences -/

/-- A repetition. What is empty is repeated once at most. -/
def repetition (min : Nat) (max : Option Nat) (greedy : Bool) (e : Shape) : Shape :=
  let (min, max) := if e.isZeroWidth then (Nat.min min 1, some (Nat.min (max.getD 1) 1)) else (min, max)
  if min = 0 ∧ max = some 0 then .empty
  else if min = 1 ∧ max = some 1 then e
  else .rep min max greedy e

/-- The parts of a sequence. -/
def parts : Shape → List Shape
  | empty => []
  | cat ps => ps
  | e => [e]

/-- The sequence of parts of which no two that are side by side can be joined. -/
def ofParts : List Shape → Shape
  | [] => .empty
  | [p] => p
  | ps => .cat ps

/-- Puts a part before a sequence; characters join those at its start. -/
def prepend (p : Shape) (rest : List Shape) : List Shape :=
  match p, rest with
  | literal cs, literal ds :: rest => literal (cs ++ ds) :: rest
  | p, rest => p :: rest

/-- The sequence of two shapes. -/
def sequence (a b : Shape) : Shape := ofParts (a.parts.foldr prepend b.parts)

/-! ## Alternatives -/

/-- The only character of a shape. -/
def single? : Shape → Option Nat
  | literal [n] => some n
  | _ => none

/-- The set of a class. -/
def set? : Shape → Option CharSet
  | cls s => some s
  | _ => none

/-- The parts of a sequence of two or more. -/
def parts? : Shape → Option (List Shape)
  | cat ps => some ps
  | _ => none

/-- A list of alternatives, in which those of an alternative stand in its place. -/
def flatten (es : List Shape) : List Shape :=
  es.flatMap fun
    | alt ps => ps
    | e => [e]

/-- Two or more alternatives as one class, if they are characters alone or classes alone. -/
def merge? (es : List Shape) : Option Shape :=
  match es.mapM single? with
  | some ns => some (ofSet (.ofRanges (ns.map fun n => (n, n))))
  | none => (es.mapM set?).map fun ss => ofSet (.ofRanges (ss.flatMap (·.ranges)))

/-- Alternatives that are none themselves, without regard to what they share. -/
def branches : List Shape → Shape
  | [] => .cls .empty
  | [e] => e
  | es => (merge? es).getD (.alt es)

/-- The parts that two sequences have in common at their start. -/
def sharedStart : List Shape → List Shape → List Shape
  | p :: ps, q :: qs => if p.same q then p :: sharedStart ps qs else []
  | _, _ => []

/-- Two or more alternatives with the start that all of them share before them. There is such a start only if all are sequences, and
what is left of them has no further one. -/
def lift? (es : List Shape) : Option Shape :=
  match es.mapM parts? with
  | some (first :: others) =>
    match others.foldl sharedStart first with
    | [] => none
    | shared =>
      let rests := (first :: others).map fun ps => ofParts (ps.drop shared.length)
      some (sequence (ofParts shared) (branches (flatten rests)))
  | _ => none

/-- The alternatives of a list of shapes. -/
def alternatives (es : List Shape) : Shape :=
  match branches (flatten es) with
  | alt es => (lift? es).getD (.alt es)
  | e => e

end Shape

/-- The shapes of the alternatives of an expression. -/
def Expr.shapes : Expr → List Shape
  | empty => [.empty]
  | one s => [.ofSet s]
  | look l => [.look l]
  | seq a b => [.sequence (.alternatives a.shapes) (.alternatives b.shapes)]
  | alt a b => .alternatives a.shapes :: b.shapes
  | rep min max greedy e => [.repetition min max greedy (.alternatives e.shapes)]
  | group captures e => [if captures then .capture (.alternatives e.shapes) else .alternatives e.shapes]

/-- The shape of an expression. -/
def Expr.shape (e : Expr) : Shape := .alternatives e.shapes

end Webform.Pattern
