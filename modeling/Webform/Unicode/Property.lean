import Webform.Unicode.Age
import Webform.Unicode.BinaryProperty
import Webform.Unicode.CaseFolding
import Webform.Unicode.GeneralCategory
import Webform.Unicode.Script
import Webform.Unicode.Segmentation

/-!
# Properties of characters

Sets of characters by the name of a property, or by the names of a property and of one of its values. Names are matched loosely:
case, spaces, hyphens and low lines do not matter, nor does a leading `is`.
-/

namespace Webform.Unicode

/-- A name as far as it matters: ASCII characters in lower case, without spaces, hyphens, low lines and a leading `is`. -/
def looseName (name : List Char) : List Char :=
  let hasIs := (name.take 2).map Char.toLower = ['i', 's']
  let rest := if hasIs then name.drop 2 else name
  let loose := (rest.filter fun c => c.toNat < 0x80 && c != ' ' && c != '_' && c != '-').map Char.toLower
  if hasIs && loose == ['c'] then ['i', 's', 'c'] else loose

/-- The set that a name alone stands for: a binary property, a general category or a script, in that order, save that three
abbreviations of categories never mean a property. -/
def propertyNamed? (name : List Char) : Option CharSet :=
  let loose := String.ofList (looseName name)
  let binary := if loose = "cf" ∨ loose = "sc" ∨ loose = "lc" then none else binaryProperty? loose
  match binary with
  | some s => some s
  | none =>
    match generalCategory? loose with
    | some s => some s
    | none => script? loose

/-- The set of characters for which a property has a value, both by name. -/
def propertyValue? (name value : List Char) : Option CharSet :=
  let value := String.ofList (looseName value)
  match String.ofList (looseName name) with
  | "generalcategory" | "gc" => generalCategory? value
  | "script" | "sc" => script? value
  | "scriptextensions" | "scx" => scriptExtension? value
  | "age" => age? value
  | "graphemeclusterbreak" | "gcb" => graphemeBreaks.find? value
  | "wordbreak" | "wb" => wordBreaks.find? value
  | "sentencebreak" | "sb" => sentenceBreaks.find? value
  | _ => none

/-- The decimal digits. -/
def digits : CharSet := (generalCategory? "nd").getD .empty

/-- The characters of words: letters and what counts as such, marks, decimal digits, connecting punctuation and joiners. -/
def wordChars : CharSet :=
  .ofRanges (["alphabetic", "joincontrol"].flatMap (fun n => ((binaryProperty? n).getD .empty).ranges) ++
    ["m", "nd", "pc"].flatMap fun n => ((generalCategory? n).getD .empty).ranges)

/-- The letters and what counts as such. -/
def letters : CharSet := (binaryProperty? "alphabetic").getD .empty

/-- The letters and numbers, and what counts as such. -/
def lettersAndNumbers : CharSet := letters.union ((generalCategory? "n").getD .empty)

/-- The blank characters. -/
def blanks : CharSet := (binaryProperty? "whitespace").getD .empty

end Webform.Unicode
