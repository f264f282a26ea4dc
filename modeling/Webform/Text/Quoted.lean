import Webform.Unicode.BinaryProperty
import Webform.Unicode.GeneralCategory

/-!
# Quoted text

A text in double quotes, for messages: characters that do not show by themselves are escaped, so that the quoted form stands on
one line and can be read off.
-/

namespace Webform.Text

open Webform.Unicode

/-- The hexadecimal digits of a number, in lower case. -/
def hexDigits (n : Nat) : List Char := Nat.toDigits 16 n

/-- The characters that do not show by themselves: controls, separators other than the space, formats, and code points without a
meaning of their own. -/
def unprintable : CharSet :=
  (CharSet.ofRanges (["cc", "cf", "cn", "co", "zl", "zp", "zs"].flatMap fun n =>
    CharSet.rangesOfText ((generalCategories.text? n).getD ""))).diff (.singleton 0x20)

/-- The characters that join the one before them. -/
def joining : CharSet := (binaryProperty? "graphemeextend").getD .empty

/-- A character as it stands between the quotes. -/
def quoteChar (c : Char) : List Char :=
  if c = '\x00' then ['\\', '0']
  else if c = '\t' then ['\\', 't']
  else if c = '\r' then ['\\', 'r']
  else if c = '\n' then ['\\', 'n']
  else if c = '"' then ['\\', '"']
  else if c = '\\' then ['\\', '\\']
  else if 0x20 ≤ c.toNat ∧ c.toNat < 0x7F then [c]
  else if joining.contains c.toNat || unprintable.contains c.toNat then
    ['\\', 'u', '\x7b'] ++ hexDigits c.toNat ++ ['\x7d']
  else [c]

/-- The text in double quotes. -/
def quoted (s : String) : String :=
  .ofList ('"' :: s.toList.flatMap quoteChar ++ ['"'])

end Webform.Text
