import Webform.Pattern.Reader
import Webform.Pattern.Search
import Webform.Pattern.Size

/-!
# Patterns for whole texts

A pattern is compiled when it is well formed and not too large. To check a whole text the pattern is put between the signs for the
start and the end of the text; a pattern that does not compile by itself, or not between them, checks nothing.
-/

namespace Webform.Pattern

/-- Compiles a pattern. -/
def compile? (pattern : List Char) : Option Expr :=
  match read? pattern with
  | none => none
  | some e => if e.fits then some e else none

/-- The pattern for texts that a pattern matches from start to end. -/
def anchored (pattern : List Char) : List Char := ['^', '(', '?', ':'] ++ pattern ++ [')', '$']

/-- Compiles a pattern for whole texts. -/
def compileFull? (pattern : List Char) : Option Expr :=
  match compile? pattern with
  | none => none
  | some _ => compile? (anchored pattern)

/-- Whether a text passes a pattern for whole texts; every text passes one that does not compile. -/
def passes (pattern text : String) : Bool :=
  match compileFull? pattern.toList with
  | none => true
  | some e => e.search text.toList

end Webform.Pattern
