/-!
# Script data

Where a script ends by the HTML standard. In the body of a script a comment opener starts escaped data, and in it the start of a
script's tag starts doubly escaped data, in which an end tag does not end the script but only leads back to escaped data; the end of
a comment leads back to plain data from both. `ScriptState.step?` takes one character, and `scriptTail?` gives the text after the
end tag that ends the script.
-/

namespace Webform.Markup

/-- The kinds of data in the body of a script. -/
inductive ScriptMode where
  | data
  | escaped
  | doubleEscaped
deriving DecidableEq, Repr, Inhabited

/-- What has been read of something that may change the kind of data: hyphens (two stand for any more, in plain data they do not
count), an opening bracket, a comment opener with its hyphens so far, a start tag or an end tag with its name so far in lower case. -/
inductive ScriptPending where
  | hyphens (count : Nat)
  | bracket
  | mark (hyphens : Nat)
  | opening (name : List Char)
  | closing (name : List Char)
deriving DecidableEq, Repr, Inhabited

/-- Where a reader stands in the body of a script. -/
structure ScriptState where
  mode : ScriptMode := .data
  pending : ScriptPending := .hyphens 0
deriving DecidableEq, Repr, Inhabited

/-- The characters that end the name of a tag: blanks, line breaks, a slash, the closing bracket. -/
def endsTagName (c : Char) : Bool := ['\t', '\n', '\u000c', '\r', ' ', '/', '>'].contains c

/-- The name of the tag that ends a script. -/
def scriptName : List Char := "script".toList

namespace ScriptState

/-- A character that continues nothing that came before it. -/
def resume (mode : ScriptMode) (c : Char) : ScriptState :=
  if c = '<' then ⟨mode, .bracket⟩
  else if c = '-' ∧ mode ≠ .data then ⟨mode, .hyphens 1⟩
  else ⟨mode, .hyphens 0⟩

/-- Takes one character; nothing is left to read in when the character ends the name of an end tag that ends the script. -/
def step? (s : ScriptState) (c : Char) : Option ScriptState :=
  match s.pending with
  | .hyphens n =>
    if c = '-' ∧ s.mode ≠ .data ∧ 0 < n then some ⟨s.mode, .hyphens 2⟩
    else if c = '>' ∧ n = 2 then some ⟨.data, .hyphens 0⟩
    else some (resume s.mode c)
  | .bracket =>
    if c = '/' then some ⟨s.mode, .closing []⟩
    else if c = '!' ∧ s.mode = .data then some ⟨s.mode, .mark 0⟩
    else if c.isAlpha ∧ s.mode = .escaped then some ⟨s.mode, .opening [c.toLower]⟩
    else some (resume s.mode c)
  | .mark n =>
    if c = '-' then some (if n = 0 then ⟨s.mode, .mark 1⟩ else ⟨.escaped, .hyphens 2⟩)
    else some (resume s.mode c)
  | .opening name =>
    if endsTagName c ∧ name = scriptName then some ⟨.doubleEscaped, .hyphens 0⟩
    else if c.isAlpha then some ⟨s.mode, .opening (name ++ [c.toLower])⟩
    else some (resume s.mode c)
  | .closing name =>
    if endsTagName c ∧ name = scriptName then (if s.mode = .doubleEscaped then some ⟨.escaped, .hyphens 0⟩ else none)
    else if c.isAlpha then some ⟨s.mode, .closing (name ++ [c.toLower])⟩
    else some (resume s.mode c)

end ScriptState

/-- The text after the end tag that ends the script, up to the character that ends its name; nothing, if the script does not end. -/
def scriptTail? (s : ScriptState) : List Char → Option (List Char)
  | [] => none
  | c :: r =>
    match s.step? c with
    | some t => scriptTail? t r
    | none => some r

end Webform.Markup
