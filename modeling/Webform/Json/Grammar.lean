import Webform.Json.Reader

/-!
# The grammar of JSON

Which texts are JSON, said without reading them: strings and what they spell, numbers, and values (`IsValue`). Values nest as deep
as they like, and a number may be of any size. A string may escape half of a surrogate pair and then spells nothing.
-/

namespace Webform.Json

/-- Blanks alone. -/
def IsBlank (ws : List Char) : Prop := ∀ c ∈ ws, isSpace c = true

/-! ## Strings -/

/-- What may stand between the quotes of a string. -/
inductive IsStringBody : List Char → Prop where
  | nil : IsStringBody []
  | plain {c : Char} {u : List Char} : c ≠ '"' → c ≠ '\\' → 0x20 ≤ c.toNat → IsStringBody u → IsStringBody (c :: u)
  | escape {c e : Char} {u : List Char} : simpleEscape? c = some e → IsStringBody u → IsStringBody ('\\' :: c :: u)
  | hex {a b c d : Char} {n : Nat} {u : List Char} :
      hexFour? a b c d = some n → IsStringBody u → IsStringBody ('\\' :: 'u' :: a :: b :: c :: d :: u)

/-- What stands between the quotes spells the text: an escaped number is that of a character, or two of them are the halves of a
surrogate pair. -/
inductive Spells : List Char → List Char → Prop where
  | nil : Spells [] []
  | plain {c : Char} {u s : List Char} : c ≠ '"' → c ≠ '\\' → 0x20 ≤ c.toNat → Spells u s → Spells (c :: u) (c :: s)
  | escape {c e : Char} {u s : List Char} : simpleEscape? c = some e → Spells u s → Spells ('\\' :: c :: u) (e :: s)
  | hex {a b c d : Char} {n : Nat} {u s : List Char} :
      hexFour? a b c d = some n → n < 0xD800 ∨ 0xDFFF < n → Spells u s →
        Spells ('\\' :: 'u' :: a :: b :: c :: d :: u) (Char.ofNat n :: s)
  | pair {a b c d e f g h : Char} {n m : Nat} {u s : List Char} :
      hexFour? a b c d = some n → 0xD800 ≤ n → n ≤ 0xDBFF → hexFour? e f g h = some m → 0xDC00 ≤ m → m ≤ 0xDFFF → Spells u s →
        Spells ('\\' :: 'u' :: a :: b :: c :: d :: '\\' :: 'u' :: e :: f :: g :: h :: u)
          (Char.ofNat ((n - 0xD800) * 0x400 + (m - 0xDC00) + 0x10000) :: s)

/-! ## Numbers -/

/-- One digit or more. -/
def IsDigits (ds : List Char) : Prop := ds ≠ [] ∧ ∀ c ∈ ds, isDigit c = true

/-- The digits before the point: a zero starts no others. -/
inductive IsWhole : List Char → Prop where
  | zero : IsWhole ['0']
  | digits {c : Char} {ds : List Char} : isDigit c = true → c ≠ '0' → (∀ d ∈ ds, isDigit d = true) → IsWhole (c :: ds)

/-- The point and the digits after it, if there are any. -/
inductive IsFraction : List Char → Prop where
  | none : IsFraction []
  | digits {ds : List Char} : IsDigits ds → IsFraction ('.' :: ds)

/-- The exponent, if there is one. -/
inductive IsExponent : List Char → Prop where
  | none : IsExponent []
  | digits {e : Char} {sign ds : List Char} :
      e = 'e' ∨ e = 'E' → sign ∈ [[], ['+'], ['-']] → IsDigits ds → IsExponent (e :: (sign ++ ds))

/-- A number without its sign. -/
inductive IsUnsigned : List Char → Prop where
  | of {whole fraction exponent : List Char} :
      IsWhole whole → IsFraction fraction → IsExponent exponent → IsUnsigned (whole ++ (fraction ++ exponent))

/-! ## Values -/

def Bracket.opening : Bracket → Char
  | list => '['
  | object => '\x7b'

/-- An entry of a list or of an object as it stands in a text: what comes before its value, which in a list is nothing and in an
object the key and the colon, then the value with the blanks around it. -/
structure EntryText where
  key : List Char
  before : List Char
  value : List Char
  after : List Char

namespace EntryText

/-- The text of an entry. -/
def toList (e : EntryText) : List Char := e.key ++ (e.before ++ (e.value ++ e.after))

/-- The key of the entry has this spelling. -/
def Spelled (e : EntryText) (u : List Char) : Prop :=
  ∃ lead gap, IsBlank lead ∧ IsBlank gap ∧ e.key = lead ++ '"' :: (u ++ '"' :: (gap ++ [':']))

/-- The key of the entry is this text. -/
def Names (e : EntryText) (key : String) : Prop := ∃ u, e.Spelled u ∧ Spells u key.toList

/-- The entry is one of a list or of an object, up to what its value is. -/
structure Fits (b : Bracket) (e : EntryText) : Prop where
  key : match b with
    | .list => e.key = []
    | .object => ∃ u, e.Spelled u ∧ IsStringBody u
  before : IsBlank e.before
  after : IsBlank e.after

/-- Entries with commas between them. -/
def join (es : List EntryText) : List Char := [','].intercalate (es.map toList)

end EntryText

/-- The text of a list or an object with the entries, after blanks. -/
def Bracket.around (b : Bracket) (gap : List Char) (es : List EntryText) : List Char :=
  b.opening :: (gap ++ (EntryText.join es ++ [b.closing]))

/-- The text is a JSON value, without blanks around it. -/
inductive IsValue : List Char → Prop where
  | null : IsValue ['n', 'u', 'l', 'l']
  | isTrue : IsValue ['t', 'r', 'u', 'e']
  | isFalse : IsValue ['f', 'a', 'l', 's', 'e']
  | string {u : List Char} : IsStringBody u → IsValue ('"' :: (u ++ ['"']))
  | number {u : List Char} : IsUnsigned u → IsValue u
  | negative {u : List Char} : IsUnsigned u → IsValue ('-' :: u)
  | entries (b : Bracket) {gap : List Char} {es : List EntryText} :
      IsBlank gap → (∀ e ∈ es, e.Fits b) → (∀ e ∈ es, IsValue e.value) → IsValue (b.around gap es)

end Webform.Json
