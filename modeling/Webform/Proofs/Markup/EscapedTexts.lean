import Webform.Proofs.Markup.Escaping
import Webform.Text.Blank

/-!
# Escaping and the other things done to a text

A text is put together, trimmed, cut into words and compared before it is escaped. It might as well be escaped first: escaping
works on one character at a time, never makes a blank out of anything else or anything else out of a blank, and keeps different
texts different. What has nothing to escape stays as it is.
-/

namespace Webform

namespace Markup

/-- The characters that are escaped in a text. -/
def markupChars : List Char := ['&', '<', '>', '"', '\'']

/-- A text as it stands in markup. -/
def escapeText (s : String) : String := .ofList (escape s.toList)

/-- The body of a style sheet or a script as it stands in markup. -/
def escapeBodyText (s : String) : String := .ofList (escapeBody s.toList)

/-- A text without any character that is escaped. -/
def IsPlain (s : String) : Prop := ∀ c ∈ s.toList, c ∉ markupChars

instance (s : String) : Decidable (IsPlain s) := List.decidableBAll (fun c => c ∉ markupChars) s.toList

/-! ## Characters -/

theorem escapeChar_of_not_mem {c : Char} (h : c ∉ markupChars) : escapeChar c = [c] := by
  simp only [markupChars, List.mem_cons, List.not_mem_nil, or_false, not_or] at h
  simp [escapeChar, h]

theorem escapeChar_ne_nil (c : Char) : escapeChar c ≠ [] := by
  unfold escapeChar
  repeat' split
  all_goals exact List.cons_ne_nil _ _

/-- A blank is escaped to blanks and nothing else is. -/
theorem isBlankChar_of_mem_escapeChar {c d : Char} (h : d ∈ escapeChar c) : Text.isBlankChar d = Text.isBlankChar c := by
  have hall : (escapeChar c).all (fun d => Text.isBlankChar d == Text.isBlankChar c) = true := by
    unfold escapeChar
    repeat' split
    case isFalse => simp
    all_goals
      rename_i hc
      subst hc
      rfl
  exact eq_of_beq (List.all_eq_true.1 hall d h)

/-! ## Texts put together -/

theorem escape_append (cs ds : List Char) : escape (cs ++ ds) = escape cs ++ escape ds := List.flatMap_append

theorem escape_eq_nil_iff (cs : List Char) : escape cs = [] ↔ cs = [] := by
  cases cs with
  | nil => simp [escape]
  | cons c cs => simp [escape_cons, escapeChar_ne_nil]

theorem escape_inj {cs ds : List Char} : escape cs = escape ds ↔ cs = ds := by
  constructor
  · intro h
    rw [← decode_escape cs, h, decode_escape]
  · rintro rfl
    rfl

@[simp] theorem toList_escapeText (s : String) : (escapeText s).toList = escape s.toList := String.toList_ofList

theorem escapeText_append (s t : String) : escapeText (s ++ t) = escapeText s ++ escapeText t := by
  rw [← String.toList_inj]
  simp [escape_append]

@[simp] theorem escapeText_eq_empty_iff (s : String) : escapeText s = "" ↔ s = "" := by
  rw [← String.toList_eq_nil_iff, toList_escapeText, escape_eq_nil_iff, String.toList_eq_nil_iff]

@[simp] theorem isEmpty_escapeText (s : String) : (escapeText s).isEmpty = s.isEmpty := by
  rw [Bool.eq_iff_iff, String.isEmpty_iff, String.isEmpty_iff, escapeText_eq_empty_iff]

@[simp] theorem escapeText_inj {s t : String} : escapeText s = escapeText t ↔ s = t := by
  rw [← String.toList_inj, toList_escapeText, toList_escapeText, escape_inj, String.toList_inj]

/-! ## Plain texts -/

theorem escape_of_plain {cs : List Char} (h : ∀ c ∈ cs, c ∉ markupChars) : escape cs = cs := by
  induction cs with
  | nil => rfl
  | cons c cs ih =>
    rw [escape_cons, escapeChar_of_not_mem (h c List.mem_cons_self), ih fun d hd => h d (List.mem_cons_of_mem c hd)]
    rfl

theorem IsPlain.escapeText_eq {s : String} (h : IsPlain s) : escapeText s = s := by
  rw [escapeText, escape_of_plain h, String.ofList_toList]

theorem isPlain_append {s t : String} (hs : IsPlain s) (ht : IsPlain t) : IsPlain (s ++ t) := by
  intro c hc
  rw [String.toList_append, List.mem_append] at hc
  rcases hc with hc | hc
  · exact hs c hc
  · exact ht c hc

theorem escapeText_intercalate {sep : String} (h : IsPlain sep) (ss : List String) :
    escapeText (sep.intercalate ss) = sep.intercalate (ss.map escapeText) := by
  have hlist : ∀ css : List (List Char), escape (sep.toList.intercalate css) = sep.toList.intercalate (css.map escape) := by
    intro css
    induction css with
    | nil => rfl
    | cons cs css ih =>
      cases css with
      | nil => simp
      | cons ds css => simp_all [escape_append, escape_of_plain h]
  rw [← String.toList_inj, toList_escapeText, String.toList_intercalate, hlist, String.toList_intercalate, List.map_map,
    List.map_map]
  congr 2
  funext s
  exact (toList_escapeText s).symm

/-! ## Numbers -/

/-- A number is written with digits. -/
theorem isPlain_toString_nat (n : Nat) : IsPlain (toString n) := by
  intro c hc
  have hdigits : (toString n).toList = Nat.toDigits 10 n := by
    show (Nat.repr n).toList = _
    rw [Nat.repr_eq_ofList_toDigits, String.toList_ofList]
  rw [hdigits] at hc
  have hdigit := Nat.isDigit_of_mem_toDigits (by decide) (by decide) hc
  intro hmem
  have hnone : markupChars.all (fun c => !c.isDigit) = true := rfl
  have hno := List.all_eq_true.1 hnone c hmem
  rw [hdigit] at hno
  cases hno

theorem isPlain_toString_int (i : Int) : IsPlain (toString i) := by
  cases i with
  | ofNat n => exact isPlain_toString_nat n
  | negSucc n => exact isPlain_append (s := "-") (by decide) (isPlain_toString_nat (n + 1))

/-! ## Blanks -/

/-- What a character is replaced by goes with it when characters are dropped from the start of a text. -/
theorem dropWhile_flatMap {p : Char → Bool} {g : Char → List Char} (hp : ∀ c, ∀ d ∈ g c, p d = p c) (hne : ∀ c, g c ≠ [])
    (cs : List Char) : (cs.flatMap g).dropWhile p = (cs.dropWhile p).flatMap g := by
  induction cs with
  | nil => rfl
  | cons c cs ih =>
    rw [List.flatMap_cons]
    cases hc : p c with
    | true => rw [List.dropWhile_append_of_pos fun d hd => (hp c d hd).trans hc, ih, List.dropWhile_cons_of_pos hc]
    | false =>
      obtain ⟨d, ds, hd⟩ := List.exists_cons_of_ne_nil (hne c)
      have hdrop : ¬p d = true := by
        rw [hp c d (by rw [hd]; exact List.mem_cons_self), hc]
        exact Bool.false_ne_true
      rw [List.dropWhile_cons_of_neg (by simp [hc]), List.flatMap_cons, hd, List.cons_append, List.dropWhile_cons_of_neg hdrop]

theorem trimStart_escape (cs : List Char) : Text.trimStart (escape cs) = escape (Text.trimStart cs) :=
  dropWhile_flatMap (fun _ _ => isBlankChar_of_mem_escapeChar) escapeChar_ne_nil cs

theorem trimEnd_escape (cs : List Char) : Text.trimEnd (escape cs) = escape (Text.trimEnd cs) := by
  have hdrop := dropWhile_flatMap (p := Text.isBlankChar) (g := List.reverse ∘ escapeChar)
    (fun _ _ hd => isBlankChar_of_mem_escapeChar (List.mem_reverse.1 hd)) (fun c h => escapeChar_ne_nil c (List.reverse_eq_nil_iff.1 h))
    cs.reverse
  unfold Text.trimEnd Text.trimStart escape
  rw [List.reverse_flatMap, hdrop, List.reverse_flatMap]
  congr 1
  funext c
  simp

/-- Trimming an escaped text is escaping what trimming leaves. -/
theorem trim_escapeText (s : String) : Text.trim (escapeText s) = escapeText (Text.trim s) := by
  rw [← String.toList_inj]
  simp [Text.trim, trimStart_escape, trimEnd_escape]

/-- Characters other than blanks go on with the word under way. -/
theorem wordsFrom_append {ds : List Char} (h : ∀ d ∈ ds, Text.isBlankChar d = false) (word cs : List Char) :
    Text.wordsFrom word (ds ++ cs) = Text.wordsFrom (ds.reverse ++ word) cs := by
  induction ds generalizing word with
  | nil => rfl
  | cons d ds ih =>
    rw [List.cons_append, Text.wordsFrom, h d List.mem_cons_self, if_neg Bool.false_ne_true,
      ih fun x hx => h x (List.mem_cons_of_mem d hx)]
    simp

theorem wordsFrom_escape (word cs : List Char) :
    Text.wordsFrom (escape word.reverse).reverse (escape cs) = (Text.wordsFrom word cs).map escapeText := by
  have hempty : ∀ word : List Char, (escape word.reverse).reverse.isEmpty = word.isEmpty := by
    intro word
    rw [Bool.eq_iff_iff, List.isEmpty_iff, List.isEmpty_iff, List.reverse_eq_nil_iff, escape_eq_nil_iff, List.reverse_eq_nil_iff]
  have hword : ∀ word : List Char, String.ofList (escape word.reverse).reverse.reverse = escapeText (.ofList word.reverse) := by
    intro word
    simp [escapeText]
  induction cs generalizing word with
  | nil =>
    show Text.wordsFrom _ [] = _
    rw [Text.wordsFrom, Text.wordsFrom, hempty, hword]
    split <;> rfl
  | cons c cs ih =>
    rw [escape_cons, Text.wordsFrom]
    cases hc : Text.isBlankChar c with
    | true =>
      have hnil := ih []
      rw [List.reverse_nil] at hnil
      have hplain : escapeChar c = [c] := by
        refine escapeChar_of_not_mem fun hmem => ?_
        have hnone : markupChars.all (fun c => !Text.isBlankChar c) = true := rfl
        have hno := List.all_eq_true.1 hnone c hmem
        rw [hc] at hno
        cases hno
      rw [hplain, List.singleton_append, Text.wordsFrom, hc, if_pos rfl, if_pos rfl, hempty, hword]
      split
      · exact hnil
      · rw [List.map_cons]
        exact congrArg _ hnil
    | false =>
      rw [wordsFrom_append fun d hd => (isBlankChar_of_mem_escapeChar hd).trans hc, if_neg Bool.false_ne_true, ← ih]
      simp [escape]

/-- The words of an escaped text are the escaped words. -/
theorem words_escapeText (s : String) : Text.words (escapeText s) = (Text.words s).map escapeText := by
  rw [Text.words, toList_escapeText]
  exact wordsFrom_escape [] s.toList

/-! ## Bodies -/

/-- A body in which no end tag starts stays as it is. -/
theorem escapeBody_of_plain {cs : List Char} (h : ¬['<', '/'] <:+: cs) : escapeBody cs = cs := by
  fun_induction escapeBody cs with
  | case1 r ih => exact absurd (List.prefix_append ['<', '/'] r).isInfix h
  | case2 c r hne ih => rw [ih fun hin => h (hin.trans (List.suffix_cons c r).isInfix)]
  | case3 => rfl

theorem escapeBodyText_of_plain {s : String} (h : ¬['<', '/'] <:+: s.toList) : escapeBodyText s = s := by
  rw [escapeBodyText, escapeBody_of_plain h, String.ofList_toList]

@[simp] theorem isEmpty_escapeBodyText (s : String) : (escapeBodyText s).isEmpty = s.isEmpty := by
  have hnil : escapeBody s.toList = [] ↔ s.toList = [] := by
    have hhead := head?_escapeBody s.toList
    constructor
    · intro h
      rw [h] at hhead
      exact List.head?_eq_none_iff.1 hhead.symm
    · intro h
      rw [h]
      rfl
  rw [Bool.eq_iff_iff, String.isEmpty_iff, String.isEmpty_iff, escapeBodyText, String.ofList_eq_empty_iff, hnil,
    String.toList_eq_nil_iff]

end Markup

end Webform
