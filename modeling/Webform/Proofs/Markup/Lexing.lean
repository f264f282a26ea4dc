import Webform.Markup.Printer
import Webform.Proofs.Markup.Escaping

/-!
# Printed markup, cut into tokens

`Lexes` says what tokens a text is cut into, without the bound on the rounds. Each tag that is printed and each text between
tags is cut off as one token, whatever follows it, so the tokens of a printed element can be put together from those of its
parts.
-/

namespace Webform.Markup

/-! ## Names -/

/-- A name of an element or an attribute that ends where another character follows. -/
def IsName (name : String) : Prop := ∀ c ∈ name.toList, isNameChar c = true

instance (name : String) : Decidable (IsName name) := decidable_of_iff (name.toList.all isNameChar = true) List.all_eq_true

variable {name : String}

/-- A name is cut off before a character that may not stand in names. -/
theorem IsName.takeWhile_append (h : IsName name) {c : Char} (hc : isNameChar c = false) (r : List Char) :
    (name.toList ++ c :: r).takeWhile isNameChar = name.toList := by
  rw [List.takeWhile_append_of_pos h, List.takeWhile_cons_of_neg (by simp [hc]), List.append_nil]

theorem IsName.dropWhile_append (h : IsName name) {c : Char} (hc : isNameChar c = false) (r : List Char) :
    (name.toList ++ c :: r).dropWhile isNameChar = c :: r := by
  rw [List.dropWhile_append_of_pos h, List.dropWhile_cons_of_neg (by simp [hc])]

/-- A name does not start with a slash, nor does what follows an empty name. -/
theorem IsName.append_ne_slash (h : IsName name) {c : Char} (hc : c ≠ '/') (r x : List Char) :
    name.toList ++ c :: r ≠ '/' :: x := by
  intro heq
  cases hn : name.toList with
  | nil => simp_all
  | cons d ds =>
    rw [hn, List.cons_append] at heq
    have hd := h d (by simp [hn])
    rw [(List.cons.inj heq).1] at hd
    revert hd
    decide

/-! ## Attributes -/

/-- Attributes with names that can be told from what follows them. -/
def Named (as : List Attribute) : Prop := ∀ a ∈ as, IsName a.name

@[simp] theorem named_nil : Named [] := fun _ h => absurd h List.not_mem_nil

@[simp] theorem named_cons (a : Attribute) (as : List Attribute) : Named (a :: as) ↔ IsName a.name ∧ Named as :=
  List.forall_mem_cons

@[simp] theorem named_append (as bs : List Attribute) : Named (as ++ bs) ↔ Named as ∧ Named bs := List.forall_mem_append

/-- Attributes whose names are spelled out, whatever their values are. -/
theorem named_of_names {as : List Attribute} (names : List String) (h : as.map (·.name) = names) (hnames : ∀ n ∈ names, IsName n) :
    Named as :=
  fun a ha => hnames a.name (h ▸ List.mem_map_of_mem ha)

theorem named_flagAttribute (condition : Bool) (h : IsName name) : Named (flagAttribute condition name) := by
  unfold flagAttribute
  split <;> simp [h]

theorem named_filledAttribute (value : String) (h : IsName name) : Named (filledAttribute name value) := by
  unfold filledAttribute
  split <;> simp [h, Attribute.of]

/-- The end of a start tag; `slash` marks it as closed. -/
def tagEnd (slash : Bool) : List Char := if slash then [' ', '/', '>'] else ['>']

/-- A value is cut off before the quote after it. -/
theorem takeWhile_quote {v : List Char} (hv : '"' ∉ v) (r : List Char) :
    (v ++ '"' :: r).takeWhile (· != '"') = v ∧ (v ++ '"' :: r).dropWhile (· != '"') = '"' :: r := by
  have hall : ∀ c ∈ v, (c != '"') = true := by
    intro c hc
    rw [bne_iff_ne]
    rintro rfl
    exact hv hc
  rw [List.takeWhile_append_of_pos hall, List.dropWhile_append_of_pos hall]
  simp

/-- Reads an attribute with a value and goes on after it. -/
theorem readAttributes?_value (h : IsName name) (v : String) (n : Nat) (r : List Char) :
    readAttributes? (n + 1) (' ' :: (name.toList ++ '=' :: '"' :: (escape v.toList ++ '"' :: r))) =
      (readAttributes? n r).map fun p => (.of name v :: p.1, p.2) := by
  have hq := takeWhile_quote (not_mem_escape v.toList '"' (by simp)) r
  rw [readAttributes?]
  · simp only [h.takeWhile_append (c := '=') (by decide), h.dropWhile_append (c := '=') (by decide), hq.1, hq.2, decode_escape,
      String.ofList_toList]
  · exact fun x hx => h.append_ne_slash (by decide) _ _ hx

/-- Reads an attribute without a value, which another attribute or the end of the tag follows. -/
theorem readAttributes?_flag (h : IsName name) (n : Nat) {c : Char} (hc : c = ' ' ∨ c = '>') (r : List Char) :
    readAttributes? (n + 1) (' ' :: (name.toList ++ c :: r)) =
      (readAttributes? n (c :: r)).map fun p => (⟨name, none⟩ :: p.1, p.2) := by
  have hn : isNameChar c = false := by rcases hc with rfl | rfl <;> decide
  rw [readAttributes?]
  · simp only [h.takeWhile_append hn, h.dropWhile_append hn, String.ofList_toList]
    rcases hc with rfl | rfl <;> rfl
  · exact fun x hx => h.append_ne_slash (by rcases hc with rfl | rfl <;> decide) _ _ hx

variable {l : Layout}

/-- What follows an attribute in a start tag starts with a blank or is the end of the tag. -/
theorem exists_head_attributes (as : List Attribute) (slash : Bool) (r : List Char) :
    ∃ c s, as.flatMap (·.print l) ++ tagEnd slash ++ r = c :: s ∧ (c = ' ' ∨ c = '>') := by
  cases as with
  | nil => cases slash <;> simp [tagEnd]
  | cons a as =>
    obtain ⟨name, value⟩ := a
    cases value <;> simp [Attribute.print]

/-- The attributes of a printed tag are read back, with the end of the tag passed over. -/
theorem readAttributes?_print (hl : l.escaped = true) (slash : Bool) (r : List Char) :
    ∀ (as : List Attribute) (n : Nat), Named as → as.length < n →
      readAttributes? n (as.flatMap (·.print l) ++ tagEnd slash ++ r) = some (as, r) := by
  intro as
  induction as with
  | nil =>
    intro n _ hn
    obtain ⟨m, rfl⟩ := Nat.exists_eq_succ_of_ne_zero (by omega : n ≠ 0)
    cases slash <;> rfl
  | cons a as ih =>
    intro n has hn
    obtain ⟨m, rfl⟩ := Nat.exists_eq_succ_of_ne_zero (by omega : n ≠ 0)
    have hrest := ih m ((named_cons a as).1 has).2 (by simp only [List.length_cons] at hn; omega)
    have hname := ((named_cons a as).1 has).1
    obtain ⟨name, value⟩ := a
    cases value with
    | some v =>
      have hvalue := readAttributes?_value hname v m (as.flatMap (·.print l) ++ tagEnd slash ++ r)
      rw [hrest] at hvalue
      simpa [Attribute.print, Layout.text, hl, Attribute.of] using hvalue
    | none =>
      obtain ⟨c, s, hs, hc⟩ := exists_head_attributes (l := l) as slash r
      have hflag := readAttributes?_flag hname m hc s
      rw [← hs, hrest] at hflag
      simpa [Attribute.print] using hflag

/-! ## Tokens -/

/-- The text is cut into the tokens, however many rounds may be taken beyond those needed. -/
def Lexes (cs : List Char) (ts : List Token) : Prop := ∀ n, cs.length < n → tokens? n cs = some ts

theorem Lexes.nil : Lexes [] [] := by
  intro n _
  cases n <;> rfl

/-- One round: if it takes a token and some text, what is left is cut on its own. -/
theorem Lexes.of_round {cs rest : List Char} {ts us : List Token} (h : Lexes rest us) (hlen : rest.length < cs.length)
    (hround : ∀ n, tokens? n rest = some us → tokens? (n + 1) cs = some ts) : Lexes cs ts := by
  intro n hn
  obtain ⟨m, rfl⟩ := Nat.exists_eq_succ_of_ne_zero (by omega : n ≠ 0)
  exact hround m (h m (by omega))

/-- An end tag is a token. -/
theorem Lexes.endTag {rest : List Char} {ts : List Token} (hname : IsName name) (h : Lexes rest ts) :
    Lexes (printEnd name ++ rest) (.endTag name :: ts) := by
  refine h.of_round (by simp only [printEnd, List.length_append, List.length_cons]; omega) fun n hn => ?_
  have htake := hname.takeWhile_append (c := '>') (by decide) rest
  have hdrop := hname.dropWhile_append (c := '>') (by decide) rest
  simp only [printEnd, List.cons_append, List.append_assoc, List.nil_append]
  rw [tokens?]
  simp only [htake, hdrop, hn, String.ofList_toList, Option.map_some]

/-- Each attribute takes at least one character. -/
theorem length_le_attributes (as : List Attribute) : as.length ≤ (as.flatMap (·.print l)).length := by
  induction as with
  | nil => simp
  | cons a as ih =>
    have ha : 1 ≤ (a.print l).length := by
      unfold Attribute.print
      split <;> simp
    rw [List.flatMap_cons, List.length_append, List.length_cons]
    omega

/-- What a start tag's name is cut off before, with the attributes read from there. -/
theorem readAttributes?_startTag {as : List Attribute} (hl : l.escaped = true) (has : Named as) (hname : IsName name)
    (slash : Bool) (rest : List Char) :
    let r := name.toList ++ (as.flatMap (·.print l) ++ tagEnd slash ++ rest)
    (∀ x, r ≠ '/' :: x) ∧ r.takeWhile isNameChar = name.toList ∧
      readAttributes? (r.length + 1) (r.dropWhile isNameChar) = some (as, rest) := by
  obtain ⟨c, s, hs, hc⟩ := exists_head_attributes (l := l) as slash rest
  have hn : isNameChar c = false := by rcases hc with rfl | rfl <;> decide
  refine ⟨fun x => ?_, ?_, ?_⟩
  · rw [hs]
    exact hname.append_ne_slash (by rcases hc with rfl | rfl <;> decide) _ _
  · rw [hs, hname.takeWhile_append hn]
  · have hdrop : (name.toList ++ (as.flatMap (·.print l) ++ tagEnd slash ++ rest)).dropWhile isNameChar =
        as.flatMap (·.print l) ++ tagEnd slash ++ rest := by
      rw [hs, hname.dropWhile_append hn]
    rw [hdrop]
    refine readAttributes?_print hl slash rest as _ has ?_
    have hlen := length_le_attributes (l := l) as
    simp only [List.length_append]
    omega

/-- A start tag is a token, unless its element's body is taken as it stands. -/
theorem Lexes.startTag {as : List Attribute} {rest : List Char} {ts : List Token} (hl : l.escaped = true) (hname : IsName name)
    (has : Named as) (hraw : isRaw name = false) (slash : Bool) (h : Lexes rest ts) :
    Lexes (printStart l name as ++ tagEnd slash ++ rest) (.startTag name as :: ts) := by
  refine h.of_round (by simp only [printStart, List.length_append, List.length_cons]; omega) fun n hn => ?_
  obtain ⟨hslash, htake, hread⟩ := readAttributes?_startTag (l := l) hl has hname slash rest
  simp only [printStart, List.cons_append, List.append_assoc] at hslash htake hread ⊢
  rw [tokens?]
  · simp only [htake, hread, String.ofList_toList, hraw, Bool.false_eq_true, ↓reduceIte, hn, Option.map_some, textTokens,
      List.isEmpty_nil, List.nil_append, List.cons_append]
  · exact fun x hx => hslash x hx

/-- The start tag of a style sheet or a script is a token, and so is the body after it if it is not empty. -/
theorem Lexes.body {as : List Attribute} {rest : List Char} {ts : List Token} (hl : l.escaped = true) (hname : IsName name)
    (has : Named as) (hraw : isRaw name = true) (text : List Char) (h : Lexes ('<' :: '/' :: rest) ts) :
    Lexes (printStart l name as ++ ['>'] ++ escapeBody text ++ '<' :: '/' :: rest)
      (.startTag name as :: textTokens (escapeBody text) ++ ts) := by
  refine h.of_round (by simp only [List.length_append, List.length_cons]; omega) fun n hn => ?_
  obtain ⟨hslash, htake, hread⟩ := readAttributes?_startTag (l := l) hl has hname false (escapeBody text ++ '<' :: '/' :: rest)
  simp only [printStart, tagEnd, Bool.false_eq_true, ↓reduceIte, List.cons_append, List.append_assoc, List.nil_append]
    at hslash htake hread ⊢
  rw [tokens?]
  · simp only [htake, hread, String.ofList_toList, hraw, ↓reduceIte, cutAtEndTag_escapeBody, hn, Option.map_some,
      List.cons_append]
  · exact fun x hx => hslash x hx

/-- A text before a tag is a token, if it is not empty. -/
theorem Lexes.text {cs rest : List Char} {ts : List Token} (hcs : '<' ∉ cs) (h : Lexes ('<' :: rest) ts) :
    Lexes (cs ++ '<' :: rest) (textTokens (decode cs) ++ ts) := by
  cases cs with
  | nil => exact h
  | cons c cs =>
    refine h.of_round (by simp only [List.cons_append, List.length_cons, List.length_append]; omega) fun n hn => ?_
    have hall : ∀ d ∈ c :: cs, (d != '<') = true := by
      intro d hd
      rw [bne_iff_ne]
      rintro rfl
      exact hcs hd
    have htake : ((c :: cs) ++ '<' :: rest).takeWhile (· != '<') = c :: cs := by
      rw [List.takeWhile_append_of_pos hall]
      simp
    have hdrop : ((c :: cs) ++ '<' :: rest).dropWhile (· != '<') = '<' :: rest := by
      rw [List.dropWhile_append_of_pos hall]
      simp
    have hc : c ≠ '<' := bne_iff_ne.1 (hall c (by simp))
    simp only [List.cons_append] at htake hdrop ⊢
    rw [tokens?]
    · simp only [htake, hdrop, hn, Option.map_some]
    · exact fun r h1 _ => hc h1
    · exact hc

/-- The line break at the end of the markup is a token. -/
theorem Lexes.lineEnd : Lexes ['\n'] [.text "\n"] := by
  refine Lexes.nil.of_round (by simp) fun n hn => ?_
  rw [tokens?]
  · simp only [show ['\n'].dropWhile (· != '<') = [] from rfl, hn, Option.map_some]
    rfl
  · exact fun r h1 _ => absurd h1 (by decide)
  · decide

end Webform.Markup
