/-!
# Escaped text

How the characters of a text stand in markup. In contents and attribute values five characters stand as entities
(`escape`, which `decode` reads back); in the body of a style sheet or a script, where entities mean nothing, only the start of an
end tag is broken up (`escapeBody`).
-/

namespace Webform.Markup

/-- A character as it stands in a text or in the value of an attribute. -/
def escapeChar (c : Char) : List Char :=
  if c = '&' then ['&', 'a', 'm', 'p', ';']
  else if c = '<' then ['&', 'l', 't', ';']
  else if c = '>' then ['&', 'g', 't', ';']
  else if c = '"' then ['&', 'q', 'u', 'o', 't', ';']
  else if c = '\'' then ['&', '#', '3', '9', ';']
  else [c]

/-- A text as it stands in markup. -/
def escape (cs : List Char) : List Char := cs.flatMap escapeChar

/-- The text that stands in markup as the given one; an ampersand that starts none of the five entities stands for itself. -/
def decode : List Char → List Char
  | '&' :: 'a' :: 'm' :: 'p' :: ';' :: r => '&' :: decode r
  | '&' :: 'l' :: 't' :: ';' :: r => '<' :: decode r
  | '&' :: 'g' :: 't' :: ';' :: r => '>' :: decode r
  | '&' :: 'q' :: 'u' :: 'o' :: 't' :: ';' :: r => '"' :: decode r
  | '&' :: '#' :: '3' :: '9' :: ';' :: r => '\'' :: decode r
  | c :: r => c :: decode r
  | [] => []

/-- The body of a style sheet or a script as it stands in markup: a backslash goes into each start of an end tag. -/
def escapeBody : List Char → List Char
  | '<' :: '/' :: r => '<' :: '\\' :: '/' :: escapeBody r
  | c :: r => c :: escapeBody r
  | [] => []

end Webform.Markup
