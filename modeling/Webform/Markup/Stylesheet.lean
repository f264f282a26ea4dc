import Webform.Styling

/-!
# The default style sheet

The style sheet of a page gives the classes of the markup their meaning. A rule stands on one line, or on one line for each
declaration.
-/

namespace Webform.Markup

/-- A rule of a style sheet; `spread` tells whether its declarations stand on lines of their own. -/
structure StyleRule where
  selector : String
  declarations : List Declaration
  spread : Bool

/-- The blanks before a rule. -/
def ruleIndent : List Char := List.replicate 4 ' '

/-- The lines of a rule. -/
def StyleRule.print (r : StyleRule) : List Char :=
  let inner :=
    if r.spread then '\n' :: (r.declarations.flatMap fun d => ruleIndent ++ ' ' :: ' ' :: d.text.toList ++ ['\n']) ++ ruleIndent
    else ' ' :: r.declarations.flatMap fun d => d.text.toList ++ [' ']
  ruleIndent ++ r.selector.toList ++ [' ', '\x7b'] ++ inner ++ ['\x7d', '\n']

/-- The rules of the default style sheet. -/
def defaultRules : List StyleRule := [
  spread ".dynamic-form" [("max-width", "720px"), ("margin", "2rem auto"), ("padding", "1rem"), ("font-family", "sans-serif")],
  spread ".form-container" [("margin", "0.5rem 0")],
  line ".d-flex" ("display", "flex"),
  line ".flex-row" ("flex-direction", "row"),
  line ".flex-column" ("flex-direction", "column"),
  line ".flex-row-reverse" ("flex-direction", "row-reverse"),
  line ".flex-column-reverse" ("flex-direction", "column-reverse"),
  line ".flex-wrap" ("flex-wrap", "wrap"),
  line ".grid-container" ("display", "grid"),
  line ".mb-3" ("margin-bottom", "1rem"),
  spread ".form-label" [("display", "block"), ("margin-bottom", "0.25rem")],
  spread ".form-control, .form-select" [("width", "100%"), ("padding", "0.5rem"), ("box-sizing", "border-box")],
  spread ".form-check" [("display", "flex"), ("align-items", "center"), ("gap", "0.5rem")],
  line ".form-text" ("font-size", "0.875em"),
  line ".text-muted" ("color", "#6c757d")]
where
  spread (selector : String) (ds : List (String × String)) : StyleRule := ⟨selector, ds.map fun d => .set d.1 d.2, true⟩
  line (selector : String) (d : String × String) : StyleRule := ⟨selector, [.set d.1 d.2], false⟩

/-- The default style sheet, as it stands between the tags of its element. -/
def defaultSheet : String := .ofList ('\n' :: defaultRules.flatMap StyleRule.print ++ [' ', ' '])

end Webform.Markup
