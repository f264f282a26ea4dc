import Webform.Pattern.Shape

/-!
# The size of a pattern's automaton

A pattern counts as too large when an automaton on the bytes of UTF-8 text would need more than ten mebibytes for it, read forwards
with its groups captured or backwards without them. The automaton is never built: `Plan.add?` counts its states and transitions in the
order in which they would be made, giving up as soon as the limit is passed. The order matters, since states are shared through tables
of fixed size in which later ones drive out earlier ones.
-/

namespace Webform.Pattern

open Unicode (CharSet)

/-! ## Bytes of UTF-8 text -/

/-- A range of bytes. -/
abbrev ByteRange := Nat × Nat

/-- The bytes of a character. -/
def utf8Bytes (n : Nat) : List Nat :=
  if n < 0x80 then [n]
  else if n < 0x800 then [0xC0 + n / 0x40, 0x80 + n % 0x40]
  else if n < 0x10000 then [0xE0 + n / 0x1000, 0x80 + n / 0x40 % 0x40, 0x80 + n % 0x40]
  else [0xF0 + n / 0x40000, 0x80 + n / 0x1000 % 0x40, 0x80 + n / 0x40 % 0x40, 0x80 + n % 0x40]

/-- Where a range of characters has to be cut so that either part may be written as ranges of bytes side by side: after characters
of one length, and where a byte changes that is followed by less than all its successors. -/
def cutPoint? (a b : Nat) : Option Nat :=
  match [0x7F, 0x7FF, 0xFFFF].find? fun m => a ≤ m && m < b with
  | some m => some m
  | none =>
    if b < 0x80 then none
    else [0x40, 0x1000, 0x40000].findSome? fun m =>
      if a / m = b / m then none
      else if a % m ≠ 0 then some (a / m * m + m - 1)
      else if b % m ≠ m - 1 then some (b / m * m - 1)
      else none

/-- The sequences of byte ranges that the characters of a range have; the first argument bounds the number of cuts in a row. -/
def byteSequences : Nat → Nat → Nat → List (List ByteRange)
  | 0, a, b => [(utf8Bytes a).zip (utf8Bytes b)]
  | n + 1, a, b =>
    match cutPoint? a b with
    | some m => byteSequences n a m ++ byteSequences n (m + 1) b
    | none => [(utf8Bytes a).zip (utf8Bytes b)]

/-- The sequences of byte ranges of a set. -/
def setSequences (s : CharSet) : List (List ByteRange) :=
  s.ranges.flatMap fun r => byteSequences 16 r.1 r.2

/-! ## Counting -/

/-- The states and the further bytes of an automaton so far. -/
structure Tally where
  states : Nat
  bytes : Nat
deriving DecidableEq, Repr

/-- How many bytes an automaton may need; a state needs 32. -/
def sizeLimit : Nat := 10 * 1024 * 1024

/-- Adds states and bytes. -/
def Tally.grow? (t : Tally) (states bytes : Nat) : Option Tally :=
  let t : Tally := ⟨t.states + states, t.bytes + bytes⟩
  if 32 * t.states + t.bytes ≤ sizeLimit then some t else none

/-- The place of a list of numbers in a table of a number of places. -/
def tablePlace (places : Nat) (key : List Nat) : Nat :=
  let step (h : UInt64) (n : Nat) : UInt64 := (h ^^^ n.toUInt64) * 1099511628211
  (key.foldl step 14695981039346656037).toNat % places

/-- A table of states that may be shared. A place has the state that was made last of those that have their place there, with what it
was made for. -/
abbrev ShareTable (α : Type) := Array (Option (α × Nat))

/-- The state that was made for a key and is known still, or else a new one with the given number; and whether it is new. -/
def ShareTable.find {α : Type} [DecidableEq α] (table : ShareTable α) (place : Nat) (key : α) (fresh : Nat) :
    ShareTable α × Nat × Bool :=
  match (table[place]?).join with
  | some (known, state) =>
    if known = key then (table, state, false) else (table.setIfInBounds place (some (key, fresh)), fresh, true)
  | none => (table.setIfInBounds place (some (key, fresh)), fresh, true)

/-! ### Classes read forwards -/

/-- The ranges that lead on from a state and the states that they lead to. -/
abbrev Edges := List (ByteRange × Nat)

/-- A state to which edges are still added; `last` is the range of the one under way. -/
structure OpenState where
  edges : Edges := []
  last : Option ByteRange := none

/-- The states of a class that have been counted so far, with those that may be shared. -/
structure ClassTally where
  table : ShareTable Edges
  tally : Tally

/-- The edges of a state once the one under way leads to a state. -/
def OpenState.close (s : OpenState) (target : Nat) : Edges := s.edges ++ (s.last.map (·, target)).toList

/-- Makes the state with the given edges, or finds it. -/
def ClassTally.finish (c : ClassTally) (es : Edges) : ClassTally × Nat :=
  let key := es.flatMap fun e => [e.1.1, e.1.2, e.2]
  match c.table.find (tablePlace 10000 key) es c.tally.states with
  | (table, state, isNew) =>
    (⟨table, if isNew then ⟨c.tally.states + 1, c.tally.bytes + 8 * es.length⟩ else c.tally⟩, state)

/-- Finishes open states, each of which leads to the next and the last to the given state. Gives the state that leads to them all. -/
def ClassTally.finishAll (target : Nat) (c : ClassTally) : List OpenState → ClassTally × Nat
  | [] => (c, target)
  | s :: rest =>
    let (c, next) := c.finishAll target rest
    c.finish (s.close next)

/-- Adds a sequence of ranges. It shares the open states as far as it starts like the sequence before it; the others are finished. -/
def ClassTally.extend (target : Nat) (c : ClassTally) : List OpenState → List ByteRange → ClassTally × List OpenState
  | s :: pending, r :: rs =>
    if s.last = some r then
      let (c, pending) := c.extend target pending rs
      (c, s :: pending)
    else
      let (c, next) := c.finishAll target pending
      (c, { edges := s.close next, last := some r } :: rs.map fun r => { last := some r })
  | [], rs => (c, rs.map fun r => { last := some r })
  | pending, [] => (c, pending)

/-- Adds the states for a class read forwards. Sequences that start alike share their start, and those that end alike their end as far
as the table still knows it. -/
def Tally.addForwards? (t : Tally) (seqs : List (List ByteRange)) : Option Tally := do
  let t ← t.grow? 1 0
  let target := t.states - 1
  let (c, pending) := seqs.foldl (fun (acc : ClassTally × List OpenState) seq => acc.1.extend target acc.2 seq)
    (⟨Array.replicate 10000 none, t⟩, [{}])
  (c.finishAll target pending).1.tally.grow? 0 0

/-! ### Classes read backwards -/

/-- Adds the states for one sequence read backwards, which starts at a state. -/
def addSequence (table : ShareTable (Nat × ByteRange)) (states target : Nat) :
    List ByteRange → ShareTable (Nat × ByteRange) × Nat
  | [] => (table, states)
  | r :: rs =>
    match table.find (tablePlace 1000 [target, r.1, r.2]) (target, r) states with
    | (table, state, isNew) => addSequence table (if isNew then states + 1 else states) state rs

/-- Adds the states for a class read backwards: starts are shared with earlier sequences as far as the table still knows them. -/
def Tally.addBackwards? (t : Tally) (seqs : List (List ByteRange)) : Option Tally := do
  let t ← t.grow? 2 (4 * seqs.length)
  let (_, states) := seqs.foldl
    (fun (acc : ShareTable (Nat × ByteRange) × Nat) seq => addSequence acc.1 acc.2 (t.states - 1) seq)
    (Array.replicate 1000 none, t.states)
  t.grow? (states - t.states) 0

/-! ### Alternatives of characters alone -/

/-- A state of a trie of texts. Where a text ends, the bytes that lead on so far are closed off, since the texts that come later are not
preferred to it: `closed` has the number of bytes of each such part, `active` the bytes since then with the states they lead to. -/
structure TrieState where
  closed : List Nat := []
  active : List (Nat × Nat) := []
deriving Inhabited

namespace TrieState

/-- The state with the end of a text. A state from which nothing leads on needs no second one. -/
def close (s : TrieState) : TrieState :=
  if s.active.isEmpty && !s.closed.isEmpty && s.closed.all (· == 0) then s else { closed := s.active.length :: s.closed }

/-- The states and bytes for a state of the trie. Each part from which bytes lead on is a state, and one more chooses among the parts
and the ends of texts; a state from which nothing leads on is the end of the trie. -/
def tally (s : TrieState) : Tally :=
  match (s.active.length :: s.closed).filter (0 < ·) with
  | [] => ⟨0, 0⟩
  | parts =>
    let edges := total id (parts.filter (1 < ·))
    ⟨1 + parts.length, 4 * (parts.length + s.closed.length) + 8 * edges⟩

end TrieState

/-- The states of a trie; the first is its root. -/
abbrev Trie := Array TrieState

/-- The state to which a byte leads from a state, added if there is none. -/
def Trie.step (acc : Trie × Nat) (byte : Nat) : Trie × Nat :=
  let (trie, state) := acc
  let s := trie.getD state {}
  match s.active.lookup byte with
  | some next => (trie, next)
  | none => ((trie.setIfInBounds state { s with active := (byte, trie.size) :: s.active }).push {}, trie.size)

/-- Adds a text. -/
def Trie.add (trie : Trie) (bytes : List Nat) : Trie :=
  let (trie, state) := bytes.foldl step (trie, 0)
  trie.modify state TrieState.close

/-- The states and bytes for a choice among texts. -/
def trieTally (texts : List (List Nat)) : Tally :=
  (texts.foldl Trie.add #[{}]).foldl (fun t s => ⟨t.states + s.tally.states, t.bytes + s.tally.bytes⟩) ⟨1, 0⟩

/-! ## Plans -/

/-- What an automaton needs for a shape: a fixed number of states and bytes, the sequences of a class, or what its parts need. -/
inductive Plan where
  | fixed (states bytes : Nat)
  | sequences (backwards : Bool) (seqs : List (List ByteRange))
  | rep (min : Nat) (max : Option Nat) (canBeEmpty : Bool) (p : Plan)
  | both (a b : Plan)
deriving Repr, Inhabited

/-- The plan for all parts, in order. -/
def Plan.all (ps : List Plan) : Plan := ps.foldr .both (.fixed 0 0)

/-- The plan for a class. -/
def Plan.ofSet (backwards : Bool) (s : CharSet) : Plan :=
  if s.isAscii then .fixed 2 (8 * s.ranges.length) else .sequences backwards (setSequences s)

/-- The plan for a choice among plans. -/
def Plan.choice (ps : List Plan) : Plan :=
  .both (.all (ps.take 2)) (.both (.fixed 2 (4 * ps.length)) (.all (ps.drop 2)))

/-- The characters of a shape that is nothing else. -/
def Shape.chars? : Shape → Option (List Nat)
  | literal cs => some cs
  | _ => none

mutual

/-- The plan for a shape. Groups are captured forwards only. -/
def Shape.plan (backwards : Bool) : Shape → Plan
  | empty | look _ => .fixed 1 0
  | literal cs => .fixed (total utf8Length cs) 0
  | cls s => .ofSet backwards s
  | rep min max _ e => .rep min max e.canBeEmpty (e.plan backwards)
  | capture e => if backwards then e.plan backwards else .both (.fixed 1 0) (.both (e.plan backwards) (.fixed 1 0))
  | cat ps => .all (if backwards then (plans backwards ps).reverse else plans backwards ps)
  | alt ps =>
    match ps.mapM chars? with
    | some texts =>
      let bytes := texts.map (·.flatMap utf8Bytes)
      let t := trieTally (if backwards then bytes.map List.reverse else bytes)
      .fixed t.states t.bytes
    | none => .choice (plans backwards ps)

/-- The plans for some shapes, in order. -/
def Shape.plans (backwards : Bool) : List Shape → List Plan
  | [] => []
  | p :: ps => p.plan backwards :: plans backwards ps

end

/-- Repeats an addition. -/
def addTimes? (add : Tally → Option Tally) : Nat → Tally → Option Tally
  | 0, t => some t
  | n + 1, t =>
    match add t with
    | none => none
    | some t => addTimes? add n t

/-- Adds what a plan needs. -/
def Plan.add? : Plan → Tally → Option Tally
  | fixed states bytes, t => t.grow? states bytes
  | sequences backwards seqs, t => if backwards then t.addBackwards? seqs else t.addForwards? seqs
  | both a b, t => (a.add? t).bind b.add?
  | rep min max canBeEmpty p, t =>
    match max with
    | none =>
      if 0 < min then (addTimes? p.add? min t).bind (·.grow? 1 8)
      else if canBeEmpty then (p.add? t).bind (·.grow? 3 16)
      else (t.grow? 1 8).bind p.add?
    | some m =>
      if min = 0 ∧ m = 1 then ((t.grow? 1 8).bind p.add?).bind (·.grow? 1 0)
      else if min = m then addTimes? p.add? min t
      else do
        let t ← if min = 0 then t.grow? 1 0 else addTimes? p.add? min t
        let t ← t.grow? 1 0
        addTimes? (fun t => (t.grow? 1 8).bind p.add?) (m - min) t

/-! ## The limit -/

/-- What stands before an automaton: a loop over the characters before a match, unless there are none. -/
def Shape.lead (s : Shape) (backwards : Bool) : Tally := if s.isAnchored backwards then ⟨1, 0⟩ else ⟨3, 16⟩

/-- Whether the automaton for an expression stays within the limit, read in one direction. The whole match is captured like a group,
and one state stands after it. -/
def Expr.fitsRead (e : Expr) (backwards : Bool) : Bool :=
  ((((Shape.capture e.shape).plan backwards).add? (e.shape.lead backwards)).bind (·.grow? 1 0)).isSome

/-- Whether the automata for an expression stay within the limit. -/
def Expr.fits (e : Expr) : Bool := e.fitsRead false && e.fitsRead true

end Webform.Pattern
