import Webform.Json.Failure

/-!
# Scanning the pieces of JSON text

Blanks, words, strings and numbers. A scanner takes the unread text and gives what it read with the text left over, or a failure.
Strings and numbers are scanned in two ways: `scanString` and `scanNumber` read them, `skipString` and `skipNumber` only check
their form, which lets through lone surrogates and numbers of any size.
-/

namespace Webform.Json

/-- The outcome of scanning: what was read and the text left over. -/
abbrev Scan (α : Type) := Except Failure (α × List Char)

/-- What was read, changed by a function. -/
def Scan.as {α β : Type} (f : α → β) : Scan α → Scan β
  | .error e => .error e
  | .ok (a, r) => .ok (f a, r)

/-- A value that is known once a part of the text was passed over. -/
def yielding {α : Type} (a : α) : Except Failure (List Char) → Scan α
  | .error e => .error e
  | .ok r => .ok (a, r)

/-- The blanks between the pieces of JSON text. -/
def isSpace (c : Char) : Bool := c = ' ' || c = '\n' || c = '\t' || c = '\r'

/-- The text without the blanks at its start. -/
def skipSpace (cs : List Char) : List Char := cs.dropWhile isSpace

/-- Reads the given characters. -/
def expectWord : List Char → List Char → Except Failure (List Char)
  | [], cs => .ok cs
  | _ :: _, [] => .error (.before .endInValue [])
  | w :: ws, c :: cs => if c = w then expectWord ws cs else .error (.next .noWord (c :: cs))

/-! ## Strings -/

/-- The value of a hexadecimal digit of either case. -/
def hexValue? (c : Char) : Option Nat := Identifier.digitValue? c

/-- The number of four hexadecimal digits. -/
def hexFour? (a b c d : Char) : Option Nat := do
  return (((← hexValue? a) * 16 + (← hexValue? b)) * 16 + (← hexValue? c)) * 16 + (← hexValue? d)

/-- The failure where four hexadecimal digits should stand: the four bytes are passed over, unless the text ends before. -/
def hexFailure (cs : List Char) : Failure :=
  if Identifier.byteLength cs < 4 then .before .endInString [] else ⟨.badEscape, cs, 4⟩

/-- The character that an escape of one letter stands for. -/
def simpleEscape? (c : Char) : Option Char :=
  if c = '"' ∨ c = '\\' ∨ c = '/' then some c
  else if c = 'b' then some '\x08'
  else if c = 'f' then some '\x0c'
  else if c = 'n' then some '\n'
  else if c = 'r' then some '\r'
  else if c = 't' then some '\t'
  else none

/-- Reads what follows the opening quote of a string, up to the closing one. -/
def scanString : List Char → Scan (List Char)
  | [] => .error (.before .endInString [])
  | '"' :: cs => .ok ([], cs)
  | ['\\'] => .error (.before .endInString [])
  | '\\' :: 'u' :: cs =>
    match cs with
    | a :: b :: c :: d :: rest =>
      match hexFour? a b c d with
      | none => .error (hexFailure cs)
      | some n =>
        if 0xDC00 ≤ n ∧ n ≤ 0xDFFF then .error (.before .loneSurrogate rest)
        else if 0xD800 ≤ n ∧ n ≤ 0xDBFF then
          match rest with
          | [] => .error (.before .endInString [])
          | ['\\'] => .error (.before .endInString [])
          | '\\' :: 'u' :: low =>
            match low with
            | e :: f :: g :: h :: rest =>
              match hexFour? e f g h with
              | none => .error (hexFailure low)
              | some m =>
                if 0xDC00 ≤ m ∧ m ≤ 0xDFFF then
                  match scanString rest with
                  | .error e => .error e
                  | .ok (s, r) => .ok (Char.ofNat ((n - 0xD800) * 0x400 + (m - 0xDC00) + 0x10000) :: s, r)
                else .error (.before .loneSurrogate rest)
            | _ => .error (hexFailure low)
          | '\\' :: c :: cs => .error (.next .endOfHexEscape (c :: cs))
          | c :: cs => .error (.next .endOfHexEscape (c :: cs))
        else
          match scanString rest with
          | .error e => .error e
          | .ok (s, r) => .ok (Char.ofNat n :: s, r)
    | _ => .error (hexFailure cs)
  | '\\' :: c :: cs =>
    match simpleEscape? c with
    | none => .error (.next .badEscape (c :: cs))
    | some e =>
      match scanString cs with
      | .error e => .error e
      | .ok (s, r) => .ok (e :: s, r)
  | c :: cs =>
    if c.toNat < 0x20 then .error (.next .controlCharacter (c :: cs))
    else
      match scanString cs with
      | .error e => .error e
      | .ok (s, r) => .ok (c :: s, r)

/-- Passes over what follows the opening quote of a string, checking the form of its escapes only. -/
def skipString : List Char → Except Failure (List Char)
  | [] => .error (.before .endInString [])
  | '"' :: cs => .ok cs
  | ['\\'] => .error (.before .endInString [])
  | '\\' :: 'u' :: cs =>
    match cs with
    | a :: b :: c :: d :: rest => if (hexFour? a b c d).isSome then skipString rest else .error (hexFailure cs)
    | _ => .error (hexFailure cs)
  | '\\' :: c :: cs => if (simpleEscape? c).isSome then skipString cs else .error (.next .badEscape (c :: cs))
  | c :: cs => if c.toNat < 0x20 then .error (.before .controlCharacter (c :: cs)) else skipString cs

/-! ## Numbers -/

def isDigit (c : Char) : Bool := '0' ≤ c && c ≤ '9'

def digitValue (c : Char) : Nat := c.toNat - '0'.toNat

/-- The largest integer without a sign. -/
def maxNatural : Nat := Nat.pow 2 64 - 1

/-- Adds digits to a number as long as it stays within 64 bits: the number, and the digits that did not fit. -/
def takeDigits (n : Nat) : List Char → Nat × List Char
  | [] => (n, [])
  | d :: ds => if n * 10 + digitValue d ≤ maxNatural then takeDigits (n * 10 + digitValue d) ds else (n, d :: ds)

/-- The digits at the start of a text and what follows them. -/
def spanDigits (cs : List Char) : List Char × List Char := (cs.takeWhile isDigit, cs.dropWhile isDigit)

/-- The largest exponent. -/
def maxExponent : Nat := Nat.pow 2 31 - 1

/-- Reads the digits of an exponent: its size, or the text after the digit that made it too large. -/
def takeExponent (n : Nat) : List Char → Nat ⊕ List Char
  | [] => .inl n
  | c :: cs =>
    if !isDigit c then .inl n
    else if n * 10 + digitValue c ≤ maxExponent then takeExponent (n * 10 + digitValue c) cs
    else .inr cs

/-- The double `± digits · 10 ^ exponent`, which ends before `rest`. -/
def finishDouble (negative : Bool) (digits : Nat) (exponent : Int) (rest : List Char) : Scan Number :=
  match Double.ofParts digits exponent with
  | none => .error (.before .numberTooLarge rest)
  | some d => .ok (.double (d.withSign negative), rest)

/-- Reads what follows the `e` of a number whose digits are read, `exponent` being that of its last digit. -/
def scanExponent (negative : Bool) (digits : Nat) (exponent : Int) (cs : List Char) : Scan Number :=
  let (down, cs) := match cs with
    | '+' :: r => (false, r)
    | '-' :: r => (true, r)
    | r => (false, r)
  match cs with
  | [] => .error (.before .endInValue [])
  | c :: _ =>
    if !isDigit c then .error (.next .badNumber cs)
    else
      match takeExponent 0 cs with
      | .inl e => finishDouble negative digits (if down then exponent - e else exponent + e) (cs.dropWhile isDigit)
      | .inr r =>
        if digits ≠ 0 ∧ !down then .error (.before .numberTooLarge r)
        else .ok (.double (.zero negative), cs.dropWhile isDigit)

/-- Reads what follows the point of a number, `exponent` being that of the last digit before it. -/
def scanFraction (negative : Bool) (digits : Nat) (exponent : Int) (cs : List Char) : Scan Number :=
  let (ds, rest) := spanDigits cs
  if ds.isEmpty then
    match rest with
    | [] => .error (.before .endInValue [])
    | r => .error (.next .badNumber r)
  else
    let (n, unfit) := takeDigits digits ds
    let exponent := exponent - (ds.length - unfit.length : Nat)
    match rest with
    | 'e' :: r => scanExponent negative n exponent r
    | 'E' :: r => scanExponent negative n exponent r
    | r => finishDouble negative n exponent r

/-- The number that an integer's text stands for: a double when it has more than 64 bits, and for `-0`. -/
def integerNumber (negative : Bool) (n : Nat) (rest : List Char) : Scan Number :=
  if !negative then .ok (.integer n, rest)
  else if n = 0 ∨ Nat.pow 2 63 < n then finishDouble true n 0 rest
  else .ok (.integer (-n), rest)

/-- Reads what follows the digits before the point of a number. -/
def scanTail (negative : Bool) (digits : Nat) (unfit : List Char) (rest : List Char) : Scan Number :=
  match rest with
  | '.' :: r => scanFraction negative digits unfit.length r
  | 'e' :: r => scanExponent negative digits unfit.length r
  | 'E' :: r => scanExponent negative digits unfit.length r
  | r => if unfit.isEmpty then integerNumber negative digits r else finishDouble negative digits unfit.length r

/-- Reads a number without its sign. -/
def scanNumber (negative : Bool) : List Char → Scan Number
  | [] => .error (.before .endInValue [])
  | '0' :: cs =>
    match cs with
    | c :: _ => if isDigit c then .error (.next .badNumber cs) else scanTail negative 0 [] cs
    | [] => scanTail negative 0 [] []
  | c :: cs =>
    if isDigit c then
      let (ds, rest) := spanDigits (c :: cs)
      let (n, unfit) := takeDigits 0 ds
      scanTail negative n unfit rest
    else .error (.next .badNumber (c :: cs))

/-- Passes over what follows the `e` of a number. -/
def skipExponent (cs : List Char) : Except Failure (List Char) :=
  let cs := match cs with
    | '+' :: r => r
    | '-' :: r => r
    | r => r
  match cs with
  | c :: r => if isDigit c then .ok (r.dropWhile isDigit) else .error (.next .badNumber cs)
  | [] => .error (.before .badNumber [])

/-- Passes over what follows the digits before the point of a number. -/
def skipTail : List Char → Except Failure (List Char)
  | '.' :: cs =>
    let (ds, rest) := spanDigits cs
    if ds.isEmpty then .error (.next .badNumber rest)
    else
      match rest with
      | 'e' :: r => skipExponent r
      | 'E' :: r => skipExponent r
      | r => .ok r
  | 'e' :: cs => skipExponent cs
  | 'E' :: cs => skipExponent cs
  | cs => .ok cs

/-- Passes over a number without its sign. -/
def skipNumber : List Char → Except Failure (List Char)
  | [] => .error (.before .badNumber [])
  | '0' :: cs =>
    match cs with
    | c :: _ => if isDigit c then .error (.next .badNumber cs) else skipTail cs
    | [] => .ok []
  | c :: cs => if isDigit c then skipTail (cs.dropWhile isDigit) else .error (.next .badNumber (c :: cs))

end Webform.Json
