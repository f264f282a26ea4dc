/-!
# Blank characters

The characters with the White_Space property, and what rests on them: trimming a text, telling whether it is blank, and cutting
it into words. Texts are taken as lists of characters; the functions on `String` go through them.
-/

namespace Webform.Text

/-- The characters with the White_Space property: the ASCII blanks, next line, and the spaces and separators beyond ASCII. -/
def isBlankChar (c : Char) : Bool :=
  let n := c.toNat
  (9 ≤ n && n ≤ 13) || n == 0x20 || n == 0x85 || n == 0xA0 || n == 0x1680 || (0x2000 ≤ n && n ≤ 0x200A) ||
    n == 0x2028 || n == 0x2029 || n == 0x202F || n == 0x205F || n == 0x3000

/-- The text without the blanks at its start. -/
def trimStart (cs : List Char) : List Char :=
  cs.dropWhile isBlankChar

/-- The text without the blanks at its end. -/
def trimEnd (cs : List Char) : List Char :=
  (trimStart cs.reverse).reverse

/-- The text without the blanks at either end. -/
def trim (s : String) : String :=
  .ofList (trimEnd (trimStart s.toList))

/-- A text is blank when it holds nothing but blanks; the empty text is blank. -/
def isBlank (s : String) : Bool :=
  s.toList.all isBlankChar

/-- The words of a list of characters, `word` being the one under way, last character first. -/
def wordsFrom (word : List Char) : List Char → List String
  | [] => if word.isEmpty then [] else [.ofList word.reverse]
  | c :: cs =>
    if isBlankChar c then
      if word.isEmpty then wordsFrom [] cs else .ofList word.reverse :: wordsFrom [] cs
    else wordsFrom (c :: word) cs

/-- The maximal runs of characters that are not blank, in order. -/
def words (s : String) : List String :=
  wordsFrom [] s.toList

end Webform.Text
