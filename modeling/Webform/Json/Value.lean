import Webform.Json.Double

/-!
# JSON values

A number is an integer when its text is one and it fits 64 bits, and a double otherwise. An object is a list of members in order
of first insertion. What is read or inserted is an `Object`, whose keys are distinct. A value holds its members without a proof of it,
since the type of values cannot speak of the keys of its own lists. The written form of a value is compact text (`Value.compact`) or
text indented by two spaces a level (`Value.pretty`).
-/

namespace Webform.Json

/-- A JSON number: an integer of 64 bits, with or without a sign, or a double. -/
inductive Number where
  | integer (i : Int)
  | double (d : Double)
deriving DecidableEq, Repr, Inhabited

/-- The digits of an integer, after a minus sign where it is negative. -/
def integerToList (i : Int) : List Char :=
  if i < 0 then '-' :: Nat.toDigits 10 i.natAbs else Nat.toDigits 10 i.natAbs

namespace Number

/-- The integers that a number keeps exactly: those of 64 bits, with or without a sign. -/
def Fits (i : Int) : Prop := -(Nat.pow 2 63 : Int) ≤ i ∧ i < (Nat.pow 2 64 : Int)

instance (i : Int) : Decidable (Fits i) := inferInstanceAs (Decidable (_ ∧ _))

/-- The written form of a number. -/
def toList : Number → List Char
  | integer i => integerToList i
  | double d => d.toList

end Number

/-- A JSON value; the members of an object stand in order of insertion. -/
inductive Value where
  | null
  | bool (b : Bool)
  | number (n : Number)
  | string (s : String)
  | array (items : List Value)
  | object (members : List (String × Value))
deriving Repr, Inhabited

/-! ## Members -/

/-- The members of an object in order of insertion. -/
abbrev Members := List (String × Value)

namespace Members

/-- Sets the value of a key: an earlier value is replaced where it stands, a new key goes to the end. -/
def insert (key : String) (value : Value) : Members → Members
  | [] => [(key, value)]
  | (k, v) :: rest => if k = key then (k, value) :: rest else (k, v) :: insert key value rest

/-- The value of a key. -/
def get? (ms : Members) (key : String) : Option Value :=
  (ms.find? fun m => m.1 = key).map (·.2)

theorem insert_append {key : String} (v : Value) {ms : Members} (h : key ∉ ms.map (·.1)) :
    ms.insert key v = ms ++ [(key, v)] := by
  induction ms with
  | nil => rfl
  | cons m ms ih =>
    simp only [List.map_cons, List.mem_cons, not_or] at h
    rw [insert, if_neg (Ne.symm h.1), ih h.2, List.cons_append]

/-- A key that is there keeps its place. -/
theorem keys_insert_of_mem {key : String} (v : Value) {ms : Members} (h : key ∈ ms.map (·.1)) :
    (ms.insert key v).map (·.1) = ms.map (·.1) := by
  induction ms with
  | nil => cases h
  | cons n ms ih =>
    unfold insert
    split
    · rfl
    · rename_i hne
      rw [List.map_cons, List.map_cons, ih ((List.mem_cons.1 h).resolve_left (Ne.symm hne))]

/-- A key that is set twice is there once. -/
theorem nodup_keys_insert {ms : Members} (h : (ms.map (·.1)).Nodup) (key : String) (v : Value) :
    ((ms.insert key v).map (·.1)).Nodup := by
  by_cases hkey : key ∈ ms.map (·.1)
  · rwa [keys_insert_of_mem v hkey]
  · rw [insert_append v hkey, List.map_append, List.nodup_append]
    refine ⟨h, by simp, fun a ha b hb hab => hkey ?_⟩
    have hb : b = key := by simpa using hb
    rwa [← hb, ← hab]

end Members

/-- The members of an object, of which no two share a key. -/
@[ext] structure Object where
  members : Members := []
  distinct : (members.map (·.1)).Nodup := by exact List.nodup_nil
deriving Repr, Inhabited

namespace Object

/-- Sets the value of a key. -/
def insert (o : Object) (key : String) (value : Value) : Object :=
  ⟨o.members.insert key value, Members.nodup_keys_insert o.distinct key value⟩

/-- The object of a list of pairs inserted in order. -/
def ofPairs (pairs : List (String × Value)) : Object :=
  pairs.foldl (fun o p => o.insert p.1 p.2) {}

end Object

/-! ## Writing -/

/-- A character of a string as it stands between the quotes: quotes, backslashes and control characters are escaped. -/
def escapeChar (c : Char) : List Char :=
  if c = '"' then ['\\', '"']
  else if c = '\\' then ['\\', '\\']
  else if c = '\n' then ['\\', 'n']
  else if c = '\r' then ['\\', 'r']
  else if c = '\t' then ['\\', 't']
  else if c = '\x08' then ['\\', 'b']
  else if c = '\x0c' then ['\\', 'f']
  else if c.toNat < 0x20 then
    ['\\', 'u', '0', '0', Nat.digitChar (c.toNat / 16), Nat.digitChar (c.toNat % 16)]
  else [c]

/-- The written form of a string. -/
def stringToList (s : String) : List Char :=
  '"' :: s.toList.flatMap escapeChar ++ ['"']

/-- The written form of a value without a bracket. -/
def boolToList (b : Bool) : List Char :=
  if b then ['t', 'r', 'u', 'e'] else ['f', 'a', 'l', 's', 'e']

/-- How the entries of arrays and objects are set: what stands before an entry and before the closing bracket at a level of
nesting, and between a key and its value. -/
structure Layout where
  indent : Nat → List Char
  colon : List Char

/-- All on one line, without spaces. -/
def Layout.compact : Layout := ⟨fun _ => [], [':']⟩

/-- Each entry on a line of its own, two spaces for a level. -/
def Layout.pretty : Layout := ⟨fun level => '\n' :: List.replicate (2 * level) ' ', [':', ' ']⟩

namespace Value

mutual

/-- The text of a value that stands at a level of nesting. -/
def toList (layout : Layout) (level : Nat) : Value → List Char
  | null => ['n', 'u', 'l', 'l']
  | bool b => boolToList b
  | number n => n.toList
  | string s => stringToList s
  | array [] => ['[', ']']
  | array (v :: vs) =>
    '[' :: layout.indent (level + 1) ++ v.toList layout (level + 1) ++ itemsToList layout (level + 1) vs ++
      layout.indent level ++ [']']
  | object [] => ['{', '}']
  | object ((k, v) :: ms) =>
    '{' :: layout.indent (level + 1) ++ stringToList k ++ layout.colon ++ v.toList layout (level + 1) ++
      membersToList layout (level + 1) ms ++ layout.indent level ++ ['}']

/-- The items of an array after the first. -/
def itemsToList (layout : Layout) (level : Nat) : List Value → List Char
  | [] => []
  | v :: vs => ',' :: layout.indent level ++ v.toList layout level ++ itemsToList layout level vs

/-- The members of an object after the first. -/
def membersToList (layout : Layout) (level : Nat) : List (String × Value) → List Char
  | [] => []
  | (k, v) :: ms =>
    ',' :: layout.indent level ++ stringToList k ++ layout.colon ++ v.toList layout level ++ membersToList layout level ms

end

/-- The text of a value on one line. -/
def compact (v : Value) : String := .ofList (v.toList .compact 0)

/-- The text of a value on indented lines. -/
def pretty (v : Value) : String := .ofList (v.toList .pretty 0)

end Value

end Webform.Json
