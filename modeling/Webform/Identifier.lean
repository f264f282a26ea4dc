/-!
# Identifiers

An identifier has 128 bits. It is written as five groups of hexadecimal digits with hyphens between them, and read in that form,
without the hyphens, in braces or as a URN. `Identifier.read` says what is wrong with any other text.
-/

namespace Webform

/-- An identifier of 128 bits. -/
structure Identifier where
  value : BitVec 128
deriving DecidableEq, Repr, Inhabited, Hashable

namespace Identifier

/-- The identifier whose bits are all zero, which stands for none. -/
def nil : Identifier := ⟨0⟩

/-- The identifier with the given number, taken modulo `2 ^ 128`. -/
def ofNat (n : Nat) : Identifier := ⟨BitVec.ofNat 128 n⟩

/-- The order of the numbers, which is also that of the written forms. -/
instance : LT Identifier := ⟨fun a b => a.value.toNat < b.value.toNat⟩

instance (a b : Identifier) : Decidable (a < b) := inferInstanceAs (Decidable (a.value.toNat < b.value.toNat))

theorem lt_trans {a b c : Identifier} (hab : a < b) (hbc : b < c) : a < c := Nat.lt_trans hab hbc

/-- Of two identifiers that are not equal one comes first. -/
theorem lt_of_not_lt {a b : Identifier} (hba : ¬ b < a) (hne : a ≠ b) : a < b := by
  refine Nat.lt_of_le_of_ne (Nat.le_of_not_lt hba) fun h => hne ?_
  cases a
  cases b
  exact congrArg _ (BitVec.eq_of_toNat_eq h)

/-! ## Writing -/

/-- The hexadecimal digit of four bits. -/
def digit (v : BitVec 128) (place : Nat) : Char := Nat.digitChar (v.toNat / Nat.pow 16 place % 16)

/-- The written form without hyphens: 32 digits. -/
def digits (i : Identifier) : List Char :=
  (List.range 32).map fun k => digit i.value (31 - k)

/-- The written form: groups of 8, 4, 4, 4 and 12 digits. -/
def toList (i : Identifier) : List Char :=
  let ds := i.digits
  ds.take 8 ++ '-' :: (ds.drop 8).take 4 ++ '-' :: (ds.drop 12).take 4 ++ '-' :: (ds.drop 16).take 4 ++ '-' :: ds.drop 20

def toString (i : Identifier) : String := .ofList i.toList

instance : ToString Identifier := ⟨toString⟩

/-- An identifier is written with hexadecimal digits and hyphens. -/
theorem forall_mem_toString {P : Char → Prop} (hhyphen : P '-') (hdigit : ∀ n < 16, P (Nat.digitChar n)) (i : Identifier) :
    ∀ c ∈ i.toString.toList, P c := by
  have hdigits : ∀ c ∈ i.digits, P c := by
    intro c hc
    obtain ⟨k, -, rfl⟩ := List.mem_map.1 hc
    exact hdigit _ (Nat.mod_lt _ (by decide))
  intro c hc
  rw [toString, String.toList_ofList] at hc
  simp only [toList, List.mem_append, List.mem_cons] at hc
  rcases hc with (((hc | rfl | hc) | rfl | hc) | rfl | hc) | rfl | hc
  · exact hdigits c (List.mem_of_mem_take hc)
  · exact hhyphen
  · exact hdigits c (List.mem_of_mem_drop (List.mem_of_mem_take hc))
  · exact hhyphen
  · exact hdigits c (List.mem_of_mem_drop (List.mem_of_mem_take hc))
  · exact hhyphen
  · exact hdigits c (List.mem_of_mem_drop (List.mem_of_mem_take hc))
  · exact hhyphen
  · exact hdigits c (List.mem_of_mem_drop hc)

/-! ## Reading -/

/-- What is wrong with a text that names no identifier. -/
inductive ReadError where
  /-- Digits alone, but not 32 of them. -/
  | length (found : Nat)
  /-- A character that is neither a digit nor a hyphen, with its place in bytes. -/
  | character (found : Char) (place : Nat)
  /-- Some number of groups other than five. -/
  | groupCount (found : Nat)
  /-- Five groups of which one has the wrong length. -/
  | groupLength (group expected found : Nat)
deriving DecidableEq, Repr

def ReadError.message : ReadError → String
  | length n => "invalid length: found " ++ ToString.toString n
  | character c n => "invalid character: found `" ++ c.toString ++ "` at " ++ ToString.toString n
  | groupCount n => "invalid group count: expected 5, found " ++ ToString.toString n
  | groupLength g e f =>
    "invalid group length in group " ++ ToString.toString g ++ ": expected " ++ ToString.toString e ++ ", found " ++
      ToString.toString f

/-- The value of a hexadecimal digit of either case. -/
def digitValue? (c : Char) : Option Nat :=
  if '0' ≤ c ∧ c ≤ '9' then some (c.toNat - '0'.toNat)
  else if 'a' ≤ c ∧ c ≤ 'f' then some (c.toNat - 'a'.toNat + 10)
  else if 'A' ≤ c ∧ c ≤ 'F' then some (c.toNat - 'A'.toNat + 10)
  else none

/-- The number that hexadecimal digits write, after those that make `n`. -/
def digitsValue? (n : Nat) : List Char → Option Nat
  | [] => some n
  | c :: cs =>
    match digitValue? c with
    | none => none
    | some d => digitsValue? (n * 16 + d) cs

/-- Reads 32 digits. -/
def ofDigits? (cs : List Char) : Option Identifier :=
  if cs.length = 32 then (digitsValue? 0 cs).map .ofNat else none

/-- Reads five groups of digits with hyphens between them. -/
def ofGroups? (cs : List Char) : Option Identifier :=
  if cs.length = 36 ∧ [8, 13, 18, 23].all (fun k => cs[k]? == some '-') then
    ofDigits? (cs.take 8 ++ (cs.drop 9).take 4 ++ (cs.drop 14).take 4 ++ (cs.drop 19).take 4 ++ cs.drop 24)
  else none

/-- What stands before an identifier written as a URN, in either case. -/
def urn : List Char := "urn:uuid:".toList

/-- Takes the braces or the URN's beginning off a text: what is left, and how many characters stood before it. -/
def unwrap? (cs : List Char) : Option (List Char × Nat) :=
  if cs.head? = some '\x7b' ∧ 2 ≤ cs.length ∧ cs.getLast? = some '\x7d' then some (cs.tail.dropLast, 1)
  else if (cs.take urn.length).map Char.toLower = urn then some (cs.drop urn.length, urn.length)
  else none

/-- Reads a text in any of the forms. -/
def ofList? (cs : List Char) : Option Identifier :=
  match ofDigits? cs with
  | some i => some i
  | none =>
    match ofGroups? cs with
    | some i => some i
    | none => (unwrap? cs).bind fun u => ofGroups? u.1

/-- The number of bytes of a text. -/
def byteLength : List Char → Nat
  | [] => 0
  | c :: cs => c.utf8Size + byteLength cs

/-- The first character that is neither a digit nor a hyphen, with its place in bytes, `place` being that of the list's start. -/
def firstStray? (place : Nat) : List Char → Option (Char × Nat)
  | [] => none
  | c :: cs => if c = '-' ∨ (digitValue? c).isSome then firstStray? (place + c.utf8Size) cs else some (c, place)

/-- The places of the hyphens in a list that starts at `place`. -/
def hyphens (place : Nat) : List Char → List Nat
  | [] => []
  | c :: cs => if c = '-' then place :: hyphens (place + c.utf8Size) cs else hyphens (place + c.utf8Size) cs

/-- What is wrong with a text that `ofList?` does not read. -/
def diagnose (cs : List Char) : ReadError :=
  let (inner, offset) := (unwrap? cs).getD (cs, 0)
  match firstStray? offset inner with
  | some (c, n) => .character c n
  | none =>
    match hyphens 0 inner with
    | [] => if (unwrap? cs).isSome then .groupCount 1 else .length (byteLength cs)
    | [a, b, c, d] =>
      if a ≠ 8 then .groupLength 0 8 a
      else if b ≠ 13 then .groupLength 1 4 (b - 9)
      else if c ≠ 18 then .groupLength 2 4 (c - 14)
      else if d ≠ 23 then .groupLength 3 4 (d - 19)
      else .groupLength 4 12 (byteLength cs - 24)
    | hs => .groupCount (hs.length + 1)

/-- Reads an identifier. -/
def read (s : String) : Except ReadError Identifier :=
  match ofList? s.toList with
  | some i => .ok i
  | none => .error (diagnose s.toList)

end Identifier

end Webform
