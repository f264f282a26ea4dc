import Webform.Pattern.Bracket

/-!
# Reading patterns

A pattern is read from left to right. What has been read is kept as the items of the branch under way, the finished branches beside
it, and the scopes of the groups around it; each item is an expression with the depth of nesting of the text it was read from.
Flags hold up to the end of the group in which they are set. A pattern may be nested 250 levels deep.
-/

namespace Webform.Pattern

/-- An expression with the depth of nesting of its text. Flags set inside a group are an item too, which cannot be repeated. -/
structure Item where
  expr : Expr := .empty
  depth : Nat := 0
  isFlags : Bool := false
deriving Repr, Inhabited

/-- What surrounds a group: the items and finished branches before it, last first, and the flags that hold again after it. -/
structure Scope where
  items : List Item
  branches : List Item
  flags : Flags
  captures : Bool

/-- How far a pattern has been read. Items and branches are kept last first. -/
structure Progress where
  scopes : List Scope := []
  items : List Item := []
  branches : List Item := []
  flags : Flags := {}
  names : List (List Char) := []

/-- Joins items, last first, into one by an operation; two or more are a level of nesting. -/
def joinItems (op : Expr → Expr → Expr) : List Item → Item
  | [] => {}
  | [i] => { i with isFlags := false }
  | i :: is => is.foldl (fun acc j => { expr := op j.expr acc.expr, depth := max acc.depth (j.depth + 1) }) { i with depth := i.depth + 1 }

/-- The group under way as one item. -/
def Progress.close (p : Progress) : Item := joinItems .alt (joinItems .seq p.items :: p.branches)

/-- Adds an item to the branch under way. -/
def Progress.push (p : Progress) (e : Expr) (depth : Nat) : Progress :=
  { p with items := { expr := e, depth := depth } :: p.items }

/-- Repeats the last item of the branch under way, `lazy` telling whether a question mark follows. -/
def Progress.repeatLast? (p : Progress) (min : Nat) (max : Option Nat) (lazy : Bool) : Option Progress :=
  match p.items with
  | [] => none
  | i :: rest =>
    if i.isFlags then none
    else some { p with items := { expr := .rep min max (lazy == p.flags.swapGreed) i.expr, depth := i.depth + 1 } :: rest }

/-- Starts a group. -/
def Progress.enter (p : Progress) (captures : Bool) (flags : Flags) : Progress :=
  { p with scopes := ⟨p.items, p.branches, p.flags, captures⟩ :: p.scopes, items := [], branches := [], flags := flags }

/-- Ends the group under way. -/
def Progress.leave? (p : Progress) : Option Progress :=
  match p.scopes with
  | [] => none
  | s :: rest =>
    let inner := p.close
    some { p with scopes := rest, branches := s.branches, flags := s.flags,
                  items := { expr := .group s.captures inner.expr, depth := inner.depth + 1 } :: s.items }

/-- Reads what follows an opening parenthesis. The names of groups differ from each other. -/
def Progress.open? (p : Progress) (cs : List Char) : Option (Progress × List Char) := do
  let (o, rest) ← opening? p.flags cs
  match o with
  | .capture none => return (p.enter true p.flags, rest)
  | .capture (some name) =>
    if name ∈ p.names then none else return ({ p with names := name :: p.names }.enter true p.flags, rest)
  | .plain fs => return (p.enter false fs, rest)
  | .flags fs => return ({ p with flags := fs, items := { isFlags := true } :: p.items }, rest)

/-- Whether a question mark follows a repetition, which makes it prefer few repetitions, or many if the flags swap the two. -/
def isLazy : List Char → Bool
  | '?' :: _ => true
  | _ => false

/-- Passes over the question mark after a repetition. -/
def skipLazy : List Char → List Char
  | '?' :: cs => cs
  | cs => cs

/-- The expression of a piece of a pattern. -/
def Primitive.expr? (fs : Flags) : Primitive → Option Expr
  | char c byte => if byte && !fs.unicode && 0x80 ≤ c.toNat then none else some (.one (fs.letter c))
  | set s => some (.one s)
  | look l => some (.look l)

/-- Reads one piece or operator of a pattern, `c` being its first character. -/
def Progress.step? (p : Progress) (c : Char) (cs : List Char) : Option (Progress × List Char) :=
  match c with
  | '(' => p.open? cs
  | ')' => p.leave?.map (·, cs)
  | '|' => some ({ p with branches := joinItems .seq p.items :: p.branches, items := [] }, cs)
  | '[' => do
    let (n, rest) ← class? p.flags ('[' :: cs)
    return (p.push (.one n.set) n.depth, rest)
  | '?' => (p.repeatLast? 0 (some 1) (isLazy cs)).map (·, skipLazy cs)
  | '*' => (p.repeatLast? 0 none (isLazy cs)).map (·, skipLazy cs)
  | '+' => (p.repeatLast? 1 none (isLazy cs)).map (·, skipLazy cs)
  | '\x7b' => do
    let ((low, high), rest) ← bounds? p.flags cs
    let rest := skip p.flags rest
    return (← p.repeatLast? low high (isLazy rest), skipLazy rest)
  | '\\' => do
    let (piece, rest) ← escape? p.flags cs
    return (p.push (← piece.expr? p.flags) 0, rest)
  | '.' => p.flags.dot?.map fun s => (p.push (.one s) 0, cs)
  | '^' => some (p.push (.look p.flags.start) 0, cs)
  | '$' => some (p.push (.look p.flags.finish) 0, cs)
  | c => some (p.push (.one (p.flags.letter c)) 0, cs)

/-- Reads the rest of a pattern. Each round reads at least one character. -/
def Progress.run? : Nat → Progress → List Char → Option Progress
  | 0, _, _ => none
  | n + 1, p, cs =>
    match skip p.flags cs with
    | [] => some p
    | c :: cs =>
      match p.step? c cs with
      | none => none
      | some (p, rest) => run? n p rest

/-- How deep a pattern may be nested. -/
def maxDepth : Nat := 250

/-- Reads a pattern; `none` when it is not well formed. -/
def read? (pattern : List Char) : Option Expr :=
  match Progress.run? (pattern.length + 1) {} pattern with
  | none => none
  | some p =>
    let item := p.close
    if p.scopes.isEmpty && item.depth ≤ maxDepth then some item.expr else none

end Webform.Pattern
