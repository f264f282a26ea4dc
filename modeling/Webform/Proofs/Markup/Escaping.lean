import Webform.Markup.Reader

/-!
# Escaping and reading back

What is known of an escaped text without looking at it again: it holds none of the characters that end a text or the value of an
attribute, and `decode` gives the text back. The body of a style sheet or a script is cut off right
where it ends, whatever stands in it.
-/

namespace Webform.Markup

/-! ## Texts and values -/

theorem escape_cons (c : Char) (cs : List Char) : escape (c :: cs) = escapeChar c ++ escape cs := by
  simp [escape]

/-- No character that markup is read by stands in an escaped character. -/
theorem not_mem_escapeChar (c x : Char) (hx : x = '<' ∨ x = '>' ∨ x = '"' ∨ x = '\'') : x ∉ escapeChar c := by
  unfold escapeChar
  repeat' split
  case isFalse h1 h2 h3 h4 h5 =>
    rw [List.mem_singleton]
    rintro rfl
    rcases hx with rfl | rfl | rfl | rfl <;> contradiction
  all_goals rcases hx with rfl | rfl | rfl | rfl <;> decide

/-- No tag starts in an escaped text, and no value of an attribute ends in one. -/
theorem not_mem_escape (cs : List Char) (x : Char) (hx : x = '<' ∨ x = '>' ∨ x = '"' ∨ x = '\'') : x ∉ escape cs := by
  intro h
  obtain ⟨c, -, hc⟩ := List.mem_flatMap.1 h
  exact not_mem_escapeChar c x hx hc

/-- Decoding takes off the escape of one character. -/
theorem decode_escapeChar (c : Char) (r : List Char) : decode (escapeChar c ++ r) = c :: decode r := by
  unfold escapeChar
  repeat' split
  case isFalse h _ _ _ _ =>
    rw [List.singleton_append, decode.eq_def]
    split <;> simp_all
  all_goals simp_all [decode]

/-- Decoding gives an escaped text back. -/
theorem decode_escape (cs : List Char) : decode (escape cs) = cs := by
  induction cs with
  | nil => rfl
  | cons c cs ih => rw [escape_cons, decode_escapeChar, ih]

/-! ## Bodies -/

/-- An escaped body starts as the body does. -/
theorem head?_escapeBody (cs : List Char) : (escapeBody cs).head? = cs.head? := by
  fun_cases escapeBody cs <;> simp

/-- An escaped body is cut off exactly where the end tag after it starts, also when the body ends in an angle bracket. -/
theorem cutAtEndTag_escapeBody (cs r : List Char) :
    cutAtEndTag (escapeBody cs ++ '<' :: '/' :: r) = (escapeBody cs, '<' :: '/' :: r) := by
  fun_induction escapeBody cs with
  | case1 cs ih => simp [cutAtEndTag, ih]
  | case2 c cs hne ih =>
    have hcut : cutAtEndTag (c :: (escapeBody cs ++ '<' :: '/' :: r)) =
        (c :: (cutAtEndTag (escapeBody cs ++ '<' :: '/' :: r)).1, (cutAtEndTag (escapeBody cs ++ '<' :: '/' :: r)).2) := by
      rw [cutAtEndTag.eq_def]
      split
      · contradiction
      · -- An end tag would have to start in the body itself, since the tag after it starts with a bracket.
        rename_i r' heq
        obtain ⟨rfl, htail⟩ := List.cons.inj heq
        have hhead : (escapeBody cs ++ '<' :: '/' :: r).head? = some '/' := by rw [htail]; rfl
        cases cs with
        | nil => simp [escapeBody] at hhead
        | cons d cs =>
          have hd := head?_escapeBody (d :: cs)
          cases he : escapeBody (d :: cs) with
          | nil => simp [he] at hd
          | cons e es =>
            simp only [he, List.cons_append, List.head?_cons, Option.some.injEq] at hhead hd
            subst hhead hd
            exact absurd rfl (hne cs rfl)
      · rename_i heq
        obtain ⟨rfl, rfl⟩ := List.cons.inj heq
        rfl
    rw [List.cons_append, hcut, ih]
  | case3 => simp [cutAtEndTag]

end Webform.Markup
