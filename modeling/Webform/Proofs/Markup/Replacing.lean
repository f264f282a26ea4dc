import Mathlib.Data.List.Infix
import Webform.Markup.Printer
import Webform.Proofs.Markup.EscapedTexts

/-!
# Escaping by replacing

Both escapes can be had by replacing a pattern wherever it stands. For texts that takes five rounds, each over what the rounds before
have written, and comes to the same as one round over the characters because no round looks for what an earlier one writes
(`replaceEach_eq_flatMap`): the ampersand goes first. For bodies it takes one round, which makes no new start of an end tag, neither
out of what it writes nor out of what stands beside it (`places_escapeBody_append`).
-/

namespace Webform.Markup

/-! ## Replacing a pattern -/

/-- The text in which the pattern `p :: ps` is replaced wherever it stands, from the left and without overlaps. -/
def replaceAll (p : Char) (ps replacement : List Char) : List Char → List Char
  | [] => []
  | c :: cs =>
    if p :: ps <+: c :: cs then replacement ++ replaceAll p ps replacement (cs.drop ps.length)
    else c :: replaceAll p ps replacement cs
termination_by cs => cs.length

/-- A pattern of one character is replaced character by character. -/
theorem replaceAll_char (p : Char) (replacement cs : List Char) :
    replaceAll p [] replacement cs = cs.flatMap fun c => if c = p then replacement else [c] := by
  induction cs with
  | nil => rw [replaceAll, List.flatMap_nil]
  | cons c cs ih =>
    have hstarts : [p] <+: c :: cs ↔ c = p := by simp [List.cons_prefix_cons, eq_comm]
    rw [replaceAll, List.flatMap_cons, List.length_nil, List.drop_zero, ih]
    simp only [hstarts]
    split <;> rfl

/-- Replaces one character after another, each in what is left by those before it. -/
def replaceEach (table : List (Char × List Char)) (cs : List Char) : List Char :=
  table.foldl (fun text e => replaceAll e.1 [] e.2 text) cs

/-- What a character is replaced by; one that is not in the table stays. -/
def entryOf (table : List (Char × List Char)) (c : Char) : List Char := (table.lookup c).getD [c]

theorem entryOf_cons (e : Char × List Char) (table : List (Char × List Char)) (c : Char) :
    entryOf (e :: table) c = if c = e.1 then e.2 else entryOf table c := by
  obtain ⟨k, replacement⟩ := e
  by_cases h : c = k
  · simp [entryOf, h]
  · simp [entryOf, List.lookup_cons, h, beq_false_of_ne h]

theorem entryOf_of_not_mem {table : List (Char × List Char)} {c : Char} (h : ∀ e ∈ table, e.1 ≠ c) : entryOf table c = [c] := by
  have hnone : table.lookup c = none := List.lookup_eq_none_iff.2 fun e he => bne_iff_ne.2 (h e he).symm
  rw [entryOf, hnone]
  rfl

/-- Rounds of replacing come to one round over the characters if no character is looked for that an earlier round has written. -/
theorem replaceEach_eq_flatMap {table : List (Char × List Char)} (h : table.Pairwise fun e e' => e'.1 ∉ e.2) (cs : List Char) :
    replaceEach table cs = cs.flatMap (entryOf table) := by
  induction table generalizing cs with
  | nil =>
    have hself : entryOf [] = fun c => [c] := rfl
    rw [hself, List.flatMap_singleton']
    rfl
  | cons e table ih =>
    obtain ⟨hfirst, hrest⟩ := List.pairwise_cons.1 h
    -- The later rounds pass over what the first one writes.
    have hkept : e.2.flatMap (entryOf table) = e.2 := by
      have hself : ∀ c ∈ e.2, entryOf table c = [c] := fun c hc =>
        entryOf_of_not_mem fun e' he' heq => hfirst e' he' (heq ▸ hc)
      rw [List.flatMap_congr hself, List.flatMap_singleton']
    calc replaceEach (e :: table) cs
      _ = replaceEach table (replaceAll e.1 [] e.2 cs) := rfl
      _ = (cs.flatMap fun c => if c = e.1 then e.2 else [c]).flatMap (entryOf table) := by rw [ih hrest, replaceAll_char]
      _ = cs.flatMap fun c => (if c = e.1 then e.2 else [c]).flatMap (entryOf table) := List.flatMap_assoc
      _ = cs.flatMap (entryOf (e :: table)) := by
        congr 1
        funext c
        rw [entryOf_cons]
        split
        · exact hkept
        · exact List.flatMap_cons.trans (List.append_nil _)

/-- In another order the entities that are put in first are themselves escaped. -/
example : replaceEach [('<', ['&', 'l', 't', ';']), ('&', ['&', 'a', 'm', 'p', ';'])] ['<'] =
    ['&', 'a', 'm', 'p', ';', 'l', 't', ';'] := by cbv

/-! ## Texts -/

/-- The five entities, in the order in which they are put in. -/
def entities : List (Char × List Char) :=
  [('&', ['&', 'a', 'm', 'p', ';']), ('<', ['&', 'l', 't', ';']), ('>', ['&', 'g', 't', ';']),
    ('"', ['&', 'q', 'u', 'o', 't', ';']), ('\'', ['&', '#', '3', '9', ';'])]

/-- A text with the entities put in by five rounds of replacing; one without any of the five characters is left alone. -/
def escapeInRounds (cs : List Char) : List Char :=
  if cs.any markupChars.contains then replaceEach entities cs else cs

theorem escapeChar_eq_entryOf (c : Char) : escapeChar c = entryOf entities c := by
  simp only [entities, entryOf_cons]
  rfl

theorem escape_eq_flatMap_entryOf (cs : List Char) : escape cs = cs.flatMap (entryOf entities) :=
  List.flatMap_congr fun c _ => escapeChar_eq_entryOf c

theorem escapeInRounds_eq (cs : List Char) : escapeInRounds cs = escape cs := by
  have hapart : entities.Pairwise fun e e' => e'.1 ∉ e.2 := by decide
  unfold escapeInRounds
  split
  · rw [replaceEach_eq_flatMap hapart, escape_eq_flatMap_entryOf]
  · rename_i hnone
    refine (escape_of_plain fun c hc hmem => hnone ?_).symm
    exact List.any_eq_true.2 ⟨c, hc, List.contains_iff_mem.2 hmem⟩

/-- An escaped character is the character itself or one of the entities. -/
theorem escapeChar_cases (c : Char) : (c, escapeChar c) ∈ entities ∨ c ∉ markupChars ∧ escapeChar c = [c] := by
  by_cases hc : c ∈ markupChars
  · left
    simp only [markupChars, List.mem_cons, List.not_mem_nil, or_false] at hc
    rcases hc with rfl | rfl | rfl | rfl | rfl <;> decide
  · exact Or.inr ⟨hc, escapeChar_of_not_mem hc⟩

/-- An ampersand in an escaped character is where its entity starts. -/
theorem escapeChar_ampersand {c : Char} {a r : List Char} (h : escapeChar c = a ++ '&' :: r) : ∃ e ∈ entities, e.2 = '&' :: r := by
  have hfirst : ∀ e ∈ entities, '&' ∉ e.2.tail := by decide
  rcases escapeChar_cases c with hmem | ⟨hplain, hself⟩
  · cases a with
    | nil => exact ⟨_, hmem, h⟩
    | cons x a =>
      refine absurd ?_ (hfirst _ hmem)
      simp [h]
  · have hone : '&' ∈ [c] := by simp [← hself, h]
    rw [List.mem_singleton] at hone
    subst hone
    exact absurd List.mem_cons_self hplain

/-- Every ampersand in an escaped text starts an entity. -/
theorem exists_entity_of_ampersand {cs a r : List Char} (h : escape cs = a ++ '&' :: r) : ∃ e ∈ entities, e.2 <+: '&' :: r := by
  induction cs generalizing a with
  | nil => simp [escape] at h
  | cons c cs ih =>
    rw [escape_cons, List.append_eq_append_iff] at h
    rcases h with ⟨a', -, hlater⟩ | ⟨own, hown, hrest⟩
    · exact ih hlater
    · cases own with
      | nil => exact ih (a := []) hrest.symm
      | cons x own =>
        obtain ⟨rfl, rfl⟩ := List.cons.inj hrest
        obtain ⟨e, he, heq⟩ := escapeChar_ampersand hown
        exact ⟨e, he, heq ▸ List.prefix_append ('&' :: own) (escape cs)⟩

/-- Five rounds of replacing put in for each character its entity, as one look at each character does. So texts are escaped piece by
piece; in what comes out no character is left that markup is read by, but for the ampersands that entities start with; and the entities
are read back to the text, whatever looks like an entity in it, so that different texts stay different. -/
theorem escape_reversible (cs ds : List Char) :
    escapeInRounds cs = escape cs ∧ escape cs = cs.flatMap (entryOf entities) ∧ escape (cs ++ ds) = escape cs ++ escape ds ∧
      (∀ x ∈ ['<', '>', '"', '\''], x ∉ escape cs) ∧
      (∀ a r, escape cs = a ++ '&' :: r → ∃ e ∈ entities, e.2 <+: '&' :: r) ∧
      decode (escape cs) = cs ∧ (escape cs = escape ds ↔ cs = ds) := by
  refine ⟨escapeInRounds_eq cs, escape_eq_flatMap_entryOf cs, escape_append cs ds, fun x hx => not_mem_escape cs x (by simpa using hx),
    fun a r => exists_entity_of_ampersand, decode_escape cs, escape_inj⟩

/-! ## Bodies -/

/-- The start of an end tag. -/
def endTagStart : List Char := ['<', '/']

/-- The places at which a pattern stands in a text, in ascending order. -/
def places (pattern cs : List Char) : List Nat :=
  (List.range cs.length).filter fun i => pattern <+: cs.drop i

theorem places_cons (pattern : List Char) (c : Char) (cs : List Char) :
    places pattern (c :: cs) = (if pattern <+: c :: cs then [0] else []) ++ (places pattern cs).map (· + 1) := by
  unfold places
  rw [List.length_cons, List.range_succ_eq_map, List.filter_cons, List.filter_map, List.drop_zero]
  by_cases h : pattern <+: c :: cs <;> simp [h, Function.comp_def]

theorem places_cons_of_not {pattern : List Char} {c : Char} {cs : List Char} (h : ¬pattern <+: c :: cs) :
    places pattern (c :: cs) = (places pattern cs).map (· + 1) := by
  rw [places_cons, if_neg h, List.nil_append]

theorem places_eq_nil_iff {pattern : List Char} (hne : pattern ≠ []) (cs : List Char) :
    places pattern cs = [] ↔ ¬pattern <:+: cs := by
  induction cs with
  | nil => simp [places, hne]
  | cons c cs ih =>
    rw [places_cons, List.infix_cons_iff, not_or, ← ih, List.append_eq_nil_iff, List.map_eq_nil_iff]
    simp

theorem no_endTag_of {c : Char} {r : List Char} (h : ∀ r', c = '<' → r = '/' :: r' → False) : ¬endTagStart <+: c :: r := by
  rintro ⟨u, hu⟩
  obtain ⟨rfl, rfl⟩ := List.cons.inj hu
  exact h u rfl rfl

theorem places_endTagStart_cons (r : List Char) : places endTagStart ('<' :: '/' :: r) = 0 :: (places endTagStart r).map (· + 2) := by
  have htag : endTagStart <+: '<' :: '/' :: r := List.prefix_append endTagStart r
  have hslash : ¬endTagStart <+: '/' :: r := no_endTag_of (by simp)
  rw [places_cons, if_pos htag, places_cons_of_not hslash, List.map_map]
  rfl

/-- No end tag starts at a character that is followed by an escaped body and by anything but a slash after it, if none started there
before the body was escaped. -/
theorem no_endTag_before_escapeBody {c : Char} {r t : List Char} (h : ∀ r', c = '<' → r = '/' :: r' → False)
    (ht : t.head? ≠ some '/') : ¬endTagStart <+: c :: (escapeBody r ++ t) := by
  refine no_endTag_of fun r' hc hr' => ?_
  have hhead : (escapeBody r ++ t).head? = some '/' := by rw [hr']; rfl
  rw [List.head?_append, head?_escapeBody] at hhead
  cases r with
  | nil => exact ht hhead
  | cons d r =>
    have hd : d = '/' := by simpa using hhead
    exact h r hc (hd ▸ rfl)

/-- No end tag starts in an escaped body, nor in one with a text after it before that text, unless the text starts with a slash. -/
theorem places_escapeBody_append (cs : List Char) {t : List Char} (ht : t.head? ≠ some '/') :
    places endTagStart (escapeBody cs ++ t) = (places endTagStart t).map (· + (escapeBody cs).length) := by
  fun_induction escapeBody cs with
  | case1 r ih =>
    have hbracket : ¬endTagStart <+: '<' :: '\\' :: '/' :: (escapeBody r ++ t) := no_endTag_of (by simp)
    have hbackslash : ¬endTagStart <+: '\\' :: '/' :: (escapeBody r ++ t) := no_endTag_of (by simp)
    have hslash : ¬endTagStart <+: '/' :: (escapeBody r ++ t) := no_endTag_of (by simp)
    simp only [List.cons_append, List.length_cons]
    rw [places_cons_of_not hbracket, places_cons_of_not hbackslash, places_cons_of_not hslash, ih]
    simp [Function.comp_def, Nat.add_assoc]
  | case2 c r hne ih =>
    rw [List.cons_append, places_cons_of_not (no_endTag_before_escapeBody hne ht), ih]
    simp [Function.comp_def, Nat.add_assoc]
  | case3 => simp

/-- An escaped body is the body in which the starts of end tags are replaced. -/
theorem escapeBody_eq_replaceAll (cs : List Char) : escapeBody cs = replaceAll '<' ['/'] ['<', '\\', '/'] cs := by
  fun_induction escapeBody cs with
  | case1 r ih =>
    have htag : ['<', '/'] <+: '<' :: '/' :: r := List.prefix_append ['<', '/'] r
    rw [replaceAll, if_pos htag, ih]
    rfl
  | case2 c r hne ih =>
    have hno : ¬['<', '/'] <+: c :: r := no_endTag_of hne
    rw [replaceAll, if_neg hno, ih]
  | case3 => rw [replaceAll]

/-! ## The backslashes that are put in -/

/-- Puts a backslash after the character at each of the places, from the last to the first, so that the places stay what they are. -/
def putBackslashes (is : List Nat) (cs : List Char) : List Char :=
  is.foldr (fun i t => t.insertIdx (i + 1) '\\') cs

/-- Takes the character out after the one at each of the places, from the first to the last. -/
def takeOutAfter (is : List Nat) (cs : List Char) : List Char :=
  is.foldl (fun t i => t.eraseIdx (i + 1)) cs

theorem putBackslashes_cons (i : Nat) (is : List Nat) (cs : List Char) :
    putBackslashes (i :: is) cs = (putBackslashes is cs).insertIdx (i + 1) '\\' := rfl

theorem putBackslashes_map_succ (is : List Nat) (c : Char) (cs : List Char) :
    putBackslashes (is.map (· + 1)) (c :: cs) = c :: putBackslashes is cs := by
  induction is with
  | nil => rfl
  | cons i is ih => rw [List.map_cons, putBackslashes_cons, ih, List.insertIdx_succ_cons, ← putBackslashes_cons]

/-- A body is escaped by a backslash in each start of an end tag. -/
theorem escapeBody_eq_putBackslashes (cs : List Char) : escapeBody cs = putBackslashes (places endTagStart cs) cs := by
  fun_induction escapeBody cs with
  | case1 r ih =>
    have htwo : (places endTagStart r).map (· + 2) = ((places endTagStart r).map (· + 1)).map (· + 1) := by
      rw [List.map_map]
      rfl
    rw [places_endTagStart_cons, putBackslashes_cons, htwo, putBackslashes_map_succ, putBackslashes_map_succ, ← ih]
    rfl
  | case2 c r hne ih => rw [places_cons_of_not (no_endTag_of hne), putBackslashes_map_succ, ih]
  | case3 => rfl

/-- What has been put in is taken out again. -/
theorem takeOutAfter_putBackslashes (is : List Nat) (cs : List Char) : takeOutAfter is (putBackslashes is cs) = cs := by
  induction is with
  | nil => rfl
  | cons i is ih =>
    calc takeOutAfter (i :: is) (putBackslashes (i :: is) cs)
      _ = takeOutAfter is (((putBackslashes is cs).insertIdx (i + 1) '\\').eraseIdx (i + 1)) := rfl
      _ = takeOutAfter is (putBackslashes is cs) := by rw [List.eraseIdx_insertIdx_self]
      _ = cs := ih

/-- In an escaped body no end tag starts, and with the end tag of its element after it the first one to start is that one, also
when the body ends in an angle bracket. Escaping again changes nothing, nor does escaping a body in which no end tag starts. What is
put in is a backslash in each start of an end tag, and without those backslashes the body is back. -/
theorem escapeBody_breaks_endTags (cs : List Char) (name : String) :
    escapeBody cs = (if endTagStart <:+: cs then replaceAll '<' ['/'] ['<', '\\', '/'] cs else cs) ∧
      ¬endTagStart <:+: escapeBody cs ∧
      (places endTagStart (escapeBody cs ++ printEnd name)).head? = some (escapeBody cs).length ∧
      escapeBody (escapeBody cs) = escapeBody cs ∧ (¬endTagStart <:+: cs → escapeBody cs = cs) ∧
      escapeBody cs = putBackslashes (places endTagStart cs) cs ∧
      takeOutAfter (places endTagStart cs) (escapeBody cs) = cs := by
  have hnone : ¬endTagStart <:+: escapeBody cs := by
    have hplaces := places_escapeBody_append cs (t := []) (by simp)
    rw [List.append_nil] at hplaces
    rw [← places_eq_nil_iff (by decide), hplaces]
    rfl
  have hfirst : (places endTagStart (escapeBody cs ++ printEnd name)).head? = some (escapeBody cs).length := by
    rw [places_escapeBody_append cs (by simp [printEnd]), printEnd, List.cons_append, List.cons_append, places_endTagStart_cons]
    simp
  refine ⟨?_, hnone, hfirst, escapeBody_of_plain hnone, escapeBody_of_plain, escapeBody_eq_putBackslashes cs, ?_⟩
  · split
    · exact escapeBody_eq_replaceAll cs
    · rename_i hplain
      exact escapeBody_of_plain hplain
  · rw [escapeBody_eq_putBackslashes, takeOutAfter_putBackslashes]

/-- The escaped body alone does not tell which backslashes have been put in. -/
example : escapeBody ['<', '/'] = escapeBody ['<', '\\', '/'] := rfl

end Webform.Markup
