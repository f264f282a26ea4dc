import Webform.Json.Grammar
import Webform.Proofs.Json.Yields

/-!
# Readers and the grammar

The scanners on texts of the grammar: a string is read as what it spells, a number is read or refused whatever follows it, and a
value is passed over to its end however deep it nests (`skipValue_append`).
-/

namespace Webform.Json

theorem error_ne_ok {α : Type} {e : Failure} {a : α} : (.error e : Except Failure α) ≠ .ok a := by simp

/-! ## Blanks -/

theorem IsBlank.nil : IsBlank [] := List.forall_mem_nil _

theorem IsBlank.append {ws vs : List Char} (hws : IsBlank ws) (hvs : IsBlank vs) : IsBlank (ws ++ vs) :=
  List.forall_mem_append.2 ⟨hws, hvs⟩

theorem IsBlank.skipSpace_append {ws : List Char} (hws : IsBlank ws) (cs : List Char) : skipSpace (ws ++ cs) = skipSpace cs :=
  List.dropWhile_append_of_pos hws

theorem IsBlank.expectColon {ws : List Char} (hws : IsBlank ws) (cs : List Char) : expectColon (ws ++ ':' :: cs) = .ok cs := by
  rw [Json.expectColon, Json.skipSpace_append hws (by decide)]
  rfl

/-! ## Strings -/

theorem Spells.isStringBody {u s : List Char} (h : Spells u s) : IsStringBody u := by
  induction h with
  | nil => exact .nil
  | plain hquote hslash hcontrol _ ih => exact .plain hquote hslash hcontrol ih
  | escape he _ ih => exact .escape he ih
  | hex hn _ _ ih => exact .hex hn ih
  | pair hn _ _ hm _ _ _ ih => exact .hex hn (.hex hm ih)

/-- Characters that need no escape spell themselves. -/
theorem Spells.of_plain {u : List Char} (h : ∀ c ∈ u, c ≠ '"' ∧ c ≠ '\\' ∧ 0x20 ≤ c.toNat) : Spells u u := by
  induction u with
  | nil => exact .nil
  | cons c u ih =>
    obtain ⟨⟨hquote, hslash, hcontrol⟩, h⟩ := List.forall_mem_cons.1 h
    exact .plain hquote hslash hcontrol (ih h)

/-- A string is passed over up to its closing quote. -/
theorem skipString_append {u : List Char} (h : IsStringBody u) (t : List Char) : skipString (u ++ '"' :: t) = .ok t := by
  induction h with
  | nil => rfl
  | plain hquote hslash hcontrol _ ih => simpa [skipString, hquote, hslash, Nat.not_lt.2 hcontrol] using ih
  | @escape c e u he _ ih =>
    have hu : c ≠ 'u' := by
      rintro rfl
      simp [simpleEscape?] at he
    simpa [skipString, hu, he] using ih
  | hex hn _ ih => simpa [skipString, hn] using ih

/-- A string is read as what it spells. -/
theorem scanString_append {u s : List Char} (h : Spells u s) (t : List Char) : scanString (u ++ '"' :: t) = .ok (s, t) := by
  induction h with
  | nil => rfl
  | plain hquote hslash hcontrol _ ih => simp [scanString, hslash, Nat.not_lt.2 hcontrol, ih]
  | @escape c e u s he _ ih =>
    have hu : c ≠ 'u' := by
      rintro rfl
      simp [simpleEscape?] at he
    simp [scanString, he, ih]
  | @hex _ _ _ _ n _ _ hn hrange _ ih =>
    have hlow : ¬(0xDC00 ≤ n ∧ n ≤ 0xDFFF) := by omega
    have hhigh : ¬(0xD800 ≤ n ∧ n ≤ 0xDBFF) := by omega
    simp [scanString, hn, hlow, hhigh, ih]
  | @pair _ _ _ _ _ _ _ _ n _ _ _ hn hn1 hn2 hm hm1 hm2 _ ih =>
    have hlow : ¬(0xDC00 ≤ n ∧ n ≤ 0xDFFF) := by omega
    simp [scanString, hn, hm, hlow, hn1, hn2, hm1, hm2, ih]

/-- What is read of a string is spelled there. -/
theorem exists_spells_of_scanString {cs s rest : List Char} (h : scanString cs = .ok (s, rest)) :
    ∃ u, Spells u s ∧ cs = u ++ '"' :: rest := by
  fun_induction scanString cs generalizing s rest
  case case2 =>
    cases h
    exact ⟨[], .nil, rfl⟩
  case case10 hn _ hhigh _ _ _ _ _ _ hm hlow _ _ _ ih =>
    cases h
    obtain ⟨u, hu, hcs⟩ := ih ‹_›
    exact ⟨_, .pair hn hhigh.1 hhigh.2 hm hlow.1 hlow.2 hu, by simp [hcs]⟩
  case case16 hn hlow hhigh _ _ _ ih =>
    cases h
    obtain ⟨u, hu, hcs⟩ := ih ‹_›
    exact ⟨_, .hex hn (by omega) hu, by simp [hcs]⟩
  case case20 he _ _ _ ih =>
    cases h
    obtain ⟨u, hu, hcs⟩ := ih ‹_›
    exact ⟨_, .escape he hu, by simp [hcs]⟩
  case case23 c cs hquote hend hhex hescape hcontrol _ _ _ ih =>
    cases h
    obtain ⟨u, hu, hcs⟩ := ih ‹_›
    have hslash : c ≠ '\\' := by
      intro hc
      cases cs with
      | nil => exact hend hc rfl
      | cons d cs => exact hescape d cs hc rfl
    exact ⟨_, .plain hquote hslash (Nat.not_lt.1 hcontrol) hu, by simp [hcs]⟩
  -- What is not read is refused.
  all_goals cases h

/-- A string of the grammar is read if it spells something, and then to its end. -/
theorem scanString_eq_ok_iff {u : List Char} (h : IsStringBody u) (t s rest : List Char) :
    scanString (u ++ '"' :: t) = .ok (s, rest) ↔ Spells u s ∧ rest = t := by
  constructor
  · intro hread
    obtain ⟨u', hspells, heq⟩ := exists_spells_of_scanString hread
    -- Both spellings end where the string is passed over.
    have hskip := skipString_append h t
    rw [heq, skipString_append hspells.isStringBody] at hskip
    obtain rfl : rest = t := by simpa using hskip
    rw [List.append_cancel_right heq]
    exact ⟨hspells, rfl⟩
  · rintro ⟨hspells, rfl⟩
    exact scanString_append hspells rest

theorem Spells.eq {u s s' : List Char} (h : Spells u s) (h' : Spells u s') : s = s' := by
  have hread := scanString_append h []
  rw [scanString_append h' []] at hread
  cases hread
  rfl

/-! ## Numbers -/

/-- What the scanner makes of the text, or that it refuses it, does not depend on what follows. -/
def ScansNumber (f : List Char → Scan Number) (u : List Char) : Prop :=
  ∃ P : Number → Prop, ∀ tail, Ends tail → ∀ n rest, f (u ++ tail) = .ok (n, rest) ↔ P n ∧ rest = tail

theorem spanDigits_append_of_head {ds t : List Char} (hds : ∀ c ∈ ds, isDigit c = true) (ht : ∀ c ∈ t.head?, isDigit c = false) :
    spanDigits (ds ++ t) = (ds, t) := by
  rw [spanDigits, List.takeWhile_append_of_pos hds, List.dropWhile_append_of_pos hds]
  cases t with
  | nil => simp
  | cons c cs => simp [ht c rfl]

theorem dropWhile_isDigit_append {ds tail : List Char} (hds : ∀ c ∈ ds, isDigit c = true) (htail : Ends tail) :
    (ds ++ tail).dropWhile isDigit = tail := congrArg Prod.snd (spanDigits_append hds htail)

theorem IsExponent.ends {u tail : List Char} (h : IsExponent u) (htail : Ends tail) :
    ∀ c ∈ (u ++ tail).head?, isDigit c = false ∧ c ≠ '.' := by
  cases h with
  | none => exact fun c hc => ⟨(htail c hc).1, (htail c hc).2.1⟩
  | digits he _ _ =>
    rintro c ⟨⟩
    rcases he with rfl | rfl <;> decide

theorem IsFraction.ends {u v tail : List Char} (h : IsFraction u) (hv : IsExponent v) (htail : Ends tail) :
    ∀ c ∈ (u ++ (v ++ tail)).head?, isDigit c = false := by
  cases h with
  | none => exact fun c hc => (hv.ends htail c hc).1
  | digits =>
    rintro c ⟨⟩
    decide

theorem scansNumber_finishDouble (negative : Bool) (digits : Nat) (exponent : Int) :
    ScansNumber (finishDouble negative digits exponent) [] := by
  refine ⟨fun n => ∃ d, Double.ofParts digits exponent = some d ∧ .double (d.withSign negative) = n, fun tail _ n rest => ?_⟩
  rw [List.nil_append, finishDouble]
  cases Double.ofParts digits exponent <;> simp [eq_comm]

theorem scansNumber_integerNumber (negative : Bool) (n : Nat) : ScansNumber (integerNumber negative n) [] := by
  unfold integerNumber
  split_ifs
  · exact ⟨fun k => .integer n = k, fun tail _ k rest => by simp [eq_comm]⟩
  · exact scansNumber_finishDouble true n 0
  · exact ⟨fun k => .integer (-n) = k, fun tail _ k rest => by simp [eq_comm]⟩

/-- The digits of an exponent are taken in the same way whatever follows them. -/
theorem takeExponent_append {ds tail : List Char} (hds : ∀ c ∈ ds, isDigit c = true) (htail : Ends tail) (n : Nat) :
    takeExponent n (ds ++ tail) = (takeExponent n ds).map id (· ++ tail) := by
  induction ds generalizing n with
  | nil =>
    cases tail with
    | nil => rfl
    | cons c cs => simp [takeExponent, (htail c rfl).1]
  | cons d ds ih =>
    have hd := hds d (by simp)
    rw [List.cons_append, takeExponent, takeExponent, hd]
    simp only [Bool.not_true, Bool.false_eq_true, if_false]
    split
    · exact ih (fun c hc => hds c (by simp [hc])) _
    · rfl

theorem scansNumber_scanExponent (negative : Bool) (digits : Nat) (exponent : Int) {sign ds : List Char}
    (hsign : sign ∈ [[], ['+'], ['-']]) (hds : IsDigits ds) :
    ScansNumber (scanExponent negative digits exponent) (sign ++ ds) := by
  obtain ⟨hne, hall⟩ := hds
  obtain ⟨c, ds, rfl⟩ := List.exists_cons_of_ne_nil hne
  have hc := hall c (by simp)
  have hscan (tail : List Char) (htail : Ends tail) : scanExponent negative digits exponent (sign ++ c :: ds ++ tail) =
      (takeExponent 0 (c :: ds)).elim
        (fun e : Nat => finishDouble negative digits (if sign == ['-'] then exponent - e else exponent + e) tail)
        fun r => if digits ≠ 0 ∧ (sign == ['-']) = false then .error (.before .numberTooLarge (r ++ tail))
          else .ok (.double (.zero negative), tail) := by
    have htake := takeExponent_append hall htail 0
    have hdrop := dropWhile_isDigit_append hall htail
    rw [List.cons_append] at htake hdrop
    have hplus := ne_of_isDigit hc (d := '+') (by decide)
    have hminus := ne_of_isDigit hc (d := '-') (by decide)
    simp only [List.mem_cons, List.not_mem_nil, or_false] at hsign
    rcases hsign with rfl | rfl | rfl <;>
      simp [scanExponent, hplus, hminus, hc, htake, hdrop] <;> cases takeExponent 0 (c :: ds) <;> simp
  cases htake : takeExponent 0 (c :: ds) with
  | inl e =>
    obtain ⟨P, hP⟩ := scansNumber_finishDouble negative digits (if sign == ['-'] then exponent - e else exponent + e)
    refine ⟨P, fun tail htail n rest => ?_⟩
    rw [hscan tail htail, htake, Sum.elim_inl]
    exact hP tail htail n rest
  | inr r =>
    refine ⟨fun n => ¬(digits ≠ 0 ∧ (sign == ['-']) = false) ∧ .double (.zero negative) = n, fun tail htail n rest => ?_⟩
    rw [hscan tail htail, htake, Sum.elim_inr]
    by_cases h : digits ≠ 0 ∧ (sign == ['-']) = false
    · rw [if_pos h]
      exact iff_of_false error_ne_ok fun hn => hn.1.1 h
    · dsimp only
      rw [if_neg h, and_iff_right h, Except.ok.injEq, Prod.mk.injEq, eq_comm (a := rest)]

/-- An exponent, or none, after the digits of a number with a point. -/
theorem scansNumber_afterFraction (negative : Bool) (digits : Nat) (exponent : Int) {u : List Char} (hu : IsExponent u) :
    ScansNumber (fun cs => match cs with
      | 'e' :: r => scanExponent negative digits exponent r
      | 'E' :: r => scanExponent negative digits exponent r
      | r => finishDouble negative digits exponent r) u := by
  cases hu with
  | none =>
    obtain ⟨P, hP⟩ := scansNumber_finishDouble negative digits exponent
    refine ⟨P, fun tail htail n rest => ?_⟩
    rw [← hP tail htail n rest, List.nil_append]
    cases tail with
    | nil => rfl
    | cons c cs =>
      obtain ⟨-, -, he, hE⟩ := htail c rfl
      simp [he, hE]
  | digits he hsign hds =>
    obtain ⟨P, hP⟩ := scansNumber_scanExponent negative digits exponent hsign hds
    refine ⟨P, fun tail htail n rest => ?_⟩
    rw [← hP tail htail n rest]
    rcases he with rfl | rfl <;> simp

theorem scansNumber_scanFraction (negative : Bool) (digits : Nat) (exponent : Int) {ds u : List Char} (hds : IsDigits ds)
    (hu : IsExponent u) : ScansNumber (scanFraction negative digits exponent) (ds ++ u) := by
  obtain ⟨P, hP⟩ := scansNumber_afterFraction negative (takeDigits digits ds).1
    (exponent - (ds.length - (takeDigits digits ds).2.length : Nat)) hu
  refine ⟨P, fun tail htail n rest => ?_⟩
  have hspan := spanDigits_append_of_head hds.2 fun c hc => (hu.ends htail c hc).1
  rw [← hP tail htail n rest, List.append_assoc, scanFraction, hspan]
  exact Eq.congr_left (if_neg (ne_true_of_eq_false (List.isEmpty_eq_false_iff.2 hds.1)))

/-- A number after the digits before its point, which have been read. -/
theorem scansNumber_scanTail (negative : Bool) (digits : Nat) (unfit : List Char) {fraction exponent : List Char}
    (hfraction : IsFraction fraction) (hexponent : IsExponent exponent) :
    ScansNumber (scanTail negative digits unfit) (fraction ++ exponent) := by
  cases hfraction with
  | digits hds =>
    obtain ⟨P, hP⟩ := scansNumber_scanFraction negative digits unfit.length hds hexponent
    exact ⟨P, hP⟩
  | none =>
    cases hexponent with
    | digits he hsign hds =>
      obtain ⟨P, hP⟩ := scansNumber_scanExponent negative digits unfit.length hsign hds
      refine ⟨P, fun tail htail n rest => ?_⟩
      rw [← hP tail htail n rest]
      rcases he with rfl | rfl <;> rfl
    | none =>
      have hend : ScansNumber (fun r => if unfit.isEmpty then integerNumber negative digits r
          else finishDouble negative digits unfit.length r) [] := by
        split
        · exact scansNumber_integerNumber negative digits
        · exact scansNumber_finishDouble negative digits unfit.length
      obtain ⟨P, hP⟩ := hend
      refine ⟨P, fun tail htail n rest => ?_⟩
      rw [← hP tail htail n rest, List.append_nil]
      cases tail with
      | nil => rfl
      | cons c cs =>
        obtain ⟨-, hpoint, he, hE⟩ := htail c rfl
        simp [scanTail, hpoint, he, hE]

theorem scansNumber_scanNumber (negative : Bool) {u : List Char} (hu : IsUnsigned u) : ScansNumber (scanNumber negative) u := by
  obtain ⟨hwhole, hfraction, hexponent⟩ := hu
  rename_i fraction exponent
  have hhead (tail : List Char) (htail : Ends tail) := hfraction.ends hexponent htail
  cases hwhole with
  | zero =>
    obtain ⟨P, hP⟩ := scansNumber_scanTail negative 0 [] hfraction hexponent
    refine ⟨P, fun tail htail n rest => ?_⟩
    rw [← hP tail htail n rest]
    have hnot := hhead tail htail
    rw [List.append_assoc, List.append_assoc, List.singleton_append]
    cases htext : fraction ++ (exponent ++ tail) with
    | nil => rfl
    | cons c cs => simp [scanNumber, hnot c (by rw [htext]; rfl)]
  | @digits c ds hc hzero hds =>
    have hall : ∀ d ∈ c :: ds, isDigit d = true := List.forall_mem_cons.2 ⟨hc, hds⟩
    obtain ⟨P, hP⟩ := scansNumber_scanTail negative (takeDigits 0 (c :: ds)).1 (takeDigits 0 (c :: ds)).2 hfraction hexponent
    refine ⟨P, fun tail htail n rest => ?_⟩
    have hspan := spanDigits_append_of_head hall (hhead tail htail)
    rw [← hP tail htail n rest, List.append_assoc, List.append_assoc, List.cons_append]
    rw [List.cons_append] at hspan
    simp [scanNumber, hc, hspan]

theorem skipExponent_append {sign ds tail : List Char} (hsign : sign ∈ [[], ['+'], ['-']]) (hds : IsDigits ds) (htail : Ends tail) :
    skipExponent (sign ++ ds ++ tail) = .ok tail := by
  obtain ⟨hne, hall⟩ := hds
  obtain ⟨c, ds, rfl⟩ := List.exists_cons_of_ne_nil hne
  have hc := hall c (by simp)
  have hdrop : (ds ++ tail).dropWhile isDigit = tail := dropWhile_isDigit_append (List.forall_mem_cons.1 hall).2 htail
  have hplus := ne_of_isDigit hc (d := '+') (by decide)
  have hminus := ne_of_isDigit hc (d := '-') (by decide)
  simp only [List.mem_cons, List.not_mem_nil, or_false] at hsign
  rcases hsign with rfl | rfl | rfl <;> simp [skipExponent, hplus, hminus, hc, hdrop]

theorem skipTail_append {fraction exponent tail : List Char} (hfraction : IsFraction fraction) (hexponent : IsExponent exponent)
    (htail : Ends tail) : skipTail (fraction ++ (exponent ++ tail)) = .ok tail := by
  cases hfraction with
  | digits hds =>
    have hspan := spanDigits_append_of_head hds.2 fun c hc => (hexponent.ends htail c hc).1
    rw [List.cons_append, skipTail, hspan]
    simp only [List.isEmpty_eq_false_iff.2 hds.1, Bool.false_eq_true, if_false]
    cases hexponent with
    | digits he hsign hds =>
      have hskip := skipExponent_append hsign hds htail
      rcases he with rfl | rfl <;> simpa using hskip
    | none =>
      cases tail with
      | nil => rfl
      | cons c cs =>
        obtain ⟨-, -, he, hE⟩ := htail c rfl
        simp [he, hE]
  | none =>
    cases hexponent with
    | digits he hsign hds =>
      have hskip := skipExponent_append hsign hds htail
      rcases he with rfl | rfl <;> simpa [skipTail] using hskip
    | none =>
      cases tail with
      | nil => rfl
      | cons c cs =>
        obtain ⟨-, hpoint, he, hE⟩ := htail c rfl
        simp [skipTail, hpoint, he, hE]

/-- A number is passed over, of whatever size it is. -/
theorem skipNumber_append {u tail : List Char} (hu : IsUnsigned u) (htail : Ends tail) : skipNumber (u ++ tail) = .ok tail := by
  obtain ⟨hwhole, hfraction, hexponent⟩ := hu
  have hskip := skipTail_append hfraction hexponent htail
  have hhead := hfraction.ends hexponent htail
  rw [List.append_assoc, List.append_assoc]
  cases hwhole with
  | zero =>
    rw [List.singleton_append]
    revert hskip hhead
    generalize _ ++ (_ ++ tail) = t
    intro hskip hhead
    cases t with
    | nil => exact hskip
    | cons c cs => simpa [skipNumber, hhead c rfl] using hskip
  | @digits c ds hc hzero hds =>
    have hdrop := congrArg Prod.snd (spanDigits_append_of_head hds hhead)
    dsimp only [spanDigits] at hdrop
    simpa [skipNumber, hzero, hc, hdrop] using hskip

/-- The first character of a number is a digit. -/
theorem IsUnsigned.exists_head {u : List Char} (hu : IsUnsigned u) : ∃ c t, u = c :: t ∧ isDigit c = true := by
  obtain ⟨hwhole, -, -⟩ := hu
  cases hwhole with
  | zero => exact ⟨'0', _, rfl, rfl⟩
  | digits hc => exact ⟨_, _, rfl, hc⟩

/-! ## Values in a text -/

theorem isSpace_eq_false_of_isDigit {c : Char} (hc : isDigit c = true) : isSpace c = false := by
  simp [isSpace, ne_of_isDigit hc (d := ' ') (by decide), ne_of_isDigit hc (d := '\n') (by decide),
    ne_of_isDigit hc (d := '\t') (by decide), ne_of_isDigit hc (d := '\r') (by decide)]

/-- The first character of a value is no blank and closes no bracket. -/
theorem IsValue.exists_head {v : List Char} (h : IsValue v) :
    ∃ c t, v = c :: t ∧ isSpace c = false ∧ c ≠ ']' ∧ c ≠ '\x7d' ∧ c ≠ ',' := by
  cases h with
  | number hu =>
    obtain ⟨c, t, rfl, hc⟩ := hu.exists_head
    exact ⟨c, t, rfl, isSpace_eq_false_of_isDigit hc, ne_of_isDigit hc (by decide), ne_of_isDigit hc (by decide),
      ne_of_isDigit hc (by decide)⟩
  | entries b => cases b <;> exact ⟨_, _, rfl, by decide⟩
  | _ => exact ⟨_, _, rfl, by decide⟩

/-- Blanks are passed over up to a value. -/
theorem IsValue.skipSpace_append {v : List Char} (h : IsValue v) {ws : List Char} (hws : IsBlank ws) (tail : List Char) :
    skipSpace (ws ++ (v ++ tail)) = v ++ tail := by
  obtain ⟨c, t, rfl, hc, -⟩ := h.exists_head
  exact Json.skipSpace_append hws hc

theorem Bracket.isSpace_closing (b : Bracket) : isSpace b.closing = false := by cases b <;> rfl

namespace EntryText

/-- The entries after the first, each after its comma. -/
def more (es : List EntryText) : List Char := es.flatMap fun e => ',' :: e.toList

theorem join_cons (e : EntryText) (es : List EntryText) : join (e :: es) = e.toList ++ more es := by
  induction es generalizing e with
  | nil => simp [join, more]
  | cons f es ih =>
    have h := ih f
    unfold join at h ⊢
    rw [List.map_cons, List.map_cons, List.intercalate_cons_cons, ← List.map_cons, h]
    simp [more]

/-- What stands after the value of an entry: blanks, the further entries and the closing bracket. -/
def rest (b : Bracket) (after : List Char) (es : List EntryText) (tail : List Char) : List Char :=
  after ++ (more es ++ b.closing :: tail)

theorem around_append (b : Bracket) (gap : List Char) (e : EntryText) (es : List EntryText) (tail : List Char) :
    b.around gap (e :: es) ++ tail = b.opening :: (gap ++ (e.key ++ (e.before ++ (e.value ++ rest b e.after es tail)))) := by
  simp [Bracket.around, join_cons, toList, rest]

theorem around_nil_append (b : Bracket) (gap tail : List Char) :
    b.around gap [] ++ tail = b.opening :: (gap ++ b.closing :: tail) := by
  simp [Bracket.around, join, List.intercalate]

/-- The last entry is followed by the closing bracket. -/
theorem skipSpace_rest_nil {b : Bracket} {after : List Char} (h : IsBlank after) (tail : List Char) :
    skipSpace (rest b after [] tail) = b.closing :: tail := Json.skipSpace_append h b.isSpace_closing

/-- Another entry is followed by a comma. -/
theorem skipSpace_rest_cons {b : Bracket} {after : List Char} (h : IsBlank after) (e : EntryText) (es : List EntryText)
    (tail : List Char) : skipSpace (rest b after (e :: es) tail) =
      ',' :: (e.key ++ (e.before ++ (e.value ++ rest b e.after es tail))) := by
  have htext : rest b after (e :: es) tail = after ++ ',' :: (e.key ++ (e.before ++ (e.value ++ rest b e.after es tail))) := by
    simp [rest, more, toList]
  rw [htext, Json.skipSpace_append h (by decide)]

/-- A number ends where the value of an entry does. -/
theorem ends_rest {b : Bracket} {after : List Char} (h : IsBlank after) (es : List EntryText) (tail : List Char) :
    Ends (rest b after es tail) := by
  refine Ends.append h ?_
  cases es with
  | nil => cases b <;> exact .cons (by decide) tail
  | cons e es => exact .cons (by decide) _

/-- A key may stand as it is between its quotes when none of its characters needs an escape. -/
theorem names_of_plain {e : EntryText} {key : String} (h : key.toList.all fun c => c ≠ '"' ∧ c ≠ '\\' ∧ 0x20 ≤ c.toNat)
    (he : e.key = '"' :: (key.toList ++ ['"', ':'])) : e.Names key :=
  ⟨key.toList, ⟨[], [], .nil, .nil, he⟩, .of_plain fun c hc => of_decide_eq_true (List.all_eq_true.1 h c hc)⟩

theorem Names.fits {e : EntryText} {key : String} (h : e.Names key) (hbefore : IsBlank e.before) (hafter : IsBlank e.after) :
    e.Fits .object := by
  obtain ⟨u, hspelled, hu⟩ := h
  exact ⟨⟨u, hspelled, hu.isStringBody⟩, hbefore, hafter⟩

/-- The key of an entry and its colon are passed over. -/
theorem Fits.skipKey {b : Bracket} {e : EntryText} (h : e.Fits b) (t : List Char) : b.skipKey (e.key ++ t) = .ok t := by
  cases b with
  | list =>
    have hkey : e.key = [] := h.key
    simp [Bracket.skipKey, hkey]
  | object =>
    obtain ⟨u, ⟨lead, gap, hlead, hgap, hspelled⟩, hu⟩ := h.key
    have hskip := skipString_append hu (gap ++ ':' :: t)
    rw [hspelled]
    simp [Bracket.skipKey, Json.skipSpace_append hlead (rfl : isSpace '"' = false), hskip, hgap.expectColon]

end EntryText

/-! ## Values that are passed over -/

/-- Passes over what follows a value inside brackets, up to the end of the outermost value. -/
def skipOn (n : Nat) (bs : List Bracket) (cs : List Char) : Except Failure (List Char) :=
  match skipAfter bs cs with
  | .error e => .error e
  | .ok ([], r) => .ok r
  | .ok (b :: bs, r) => skipWithin n (b :: bs) r

theorem skipWithin_succ_of_skipOne {n : Nat} {bs : List Bracket} {cs t : List Char} (h : skipOne bs cs = skipAfter bs t) :
    skipWithin (n + 1) bs cs = skipOn n bs t := by
  rw [skipWithin, h]
  cases hafter : skipAfter bs t with
  | error e => simp [skipOn, hafter]
  | ok x => obtain ⟨_ | ⟨b, bs⟩, r⟩ := x <;> simp [skipOn, hafter]

/-- The value is passed over inside any brackets, with enough rounds left for what follows. -/
def Skipped (v : List Char) : Prop :=
  ∀ (bs : List Bracket) {ws tail : List Char} {n : Nat}, IsBlank ws → Ends tail → (ws ++ (v ++ tail)).length < n →
    ∃ m, tail.length < m ∧ skipWithin n bs (ws ++ (v ++ tail)) = skipOn m bs tail

/-- A value without entries is passed over in one round. -/
theorem IsValue.skipped_of_skipOne {v : List Char} (hv : IsValue v)
    (h : ∀ bs tail, Ends tail → ∀ cs, skipSpace cs = v ++ tail → skipOne bs cs = skipAfter bs tail) : Skipped v := by
  intro bs ws tail n hws htail hn
  obtain ⟨c, t, hct, -⟩ := hv.exists_head
  obtain ⟨n, rfl⟩ : ∃ m, n = m + 1 := ⟨n - 1, by omega⟩
  refine ⟨n, ?_, skipWithin_succ_of_skipOne (h bs tail htail _ (hv.skipSpace_append hws tail))⟩
  simp only [hct, List.length_append, List.length_cons] at hn
  omega

namespace EntryText

/-- The entries after the first are passed over with the bracket that closes them. -/
theorem skipOn_rest {b : Bracket} (bs : List Bracket) {es : List EntryText} {tail : List Char} (hfits : ∀ e ∈ es, e.Fits b)
    (hskipped : ∀ e ∈ es, Skipped e.value) {after : List Char} (hafter : IsBlank after) {n : Nat}
    (hn : (rest b after es tail).length < n) :
    ∃ m, tail.length < m ∧ skipOn n (b :: bs) (rest b after es tail) = skipOn m bs tail := by
  induction es generalizing after n with
  | nil =>
    refine ⟨n, ?_, ?_⟩
    · simp only [rest, List.length_append, List.length_cons] at hn
      omega
    · have hcomma : b.closing ≠ ',' := by cases b <;> decide
      have hclose : skipAfter (b :: bs) (rest b after [] tail) = skipAfter bs tail := by
        rw [skipAfter, skipSpace_rest_nil hafter]
        simp [hcomma]
      rw [skipOn, skipOn, hclose]
  | cons e es ih =>
    have he := hfits e (by simp)
    have hnext : skipOn n (b :: bs) (rest b after (e :: es) tail) =
        skipWithin n (b :: bs) (e.before ++ (e.value ++ rest b e.after es tail)) := by
      rw [skipOn, skipAfter, skipSpace_rest_cons hafter]
      simp [he.skipKey]
    have hlength : (e.before ++ (e.value ++ rest b e.after es tail)).length < n := by
      have htext : rest b after (e :: es) tail =
          after ++ ',' :: (e.key ++ (e.before ++ (e.value ++ rest b e.after es tail))) := by simp [rest, more, toList]
      rw [htext] at hn
      simp only [List.length_append, List.length_cons] at hn ⊢
      omega
    obtain ⟨m, hm, hvalue⟩ := hskipped e (by simp) (b :: bs) he.before (ends_rest he.after es tail) hlength
    rw [hnext, hvalue]
    exact ih (fun f hf => hfits f (by simp [hf])) (fun f hf => hskipped f (by simp [hf])) he.after hm

/-- The first entry of a bracket is reached with its key passed over. -/
theorem Fits.skipOpening {b : Bracket} {e : EntryText} (he : e.Fits b) (hv : IsValue e.value) {gap : List Char} (hgap : IsBlank gap)
    (bs : List Bracket) (t : List Char) :
    ∃ ws, IsBlank ws ∧ ws.length ≤ e.before.length ∧
      skipOpening b bs (gap ++ (e.key ++ (e.before ++ (e.value ++ t)))) = .ok (b :: bs, ws ++ (e.value ++ t)) := by
  cases b with
  | list =>
    have hkey : e.key = [] := he.key
    obtain ⟨c, u, hcu, -, hclose, -⟩ := hv.exists_head
    have hskip := hv.skipSpace_append (hgap.append he.before) t
    refine ⟨[], .nil, Nat.zero_le _, ?_⟩
    rw [hkey, List.nil_append, ← List.append_assoc, Json.skipOpening, hskip, hcu]
    simp [Bracket.closing, hclose, Bracket.skipKey]
  | object =>
    obtain ⟨u, ⟨lead, colon, hlead, hcolon, hspelled⟩, hu⟩ := he.key
    have htext : gap ++ (e.key ++ (e.before ++ (e.value ++ t))) =
        (gap ++ lead) ++ '"' :: (u ++ '"' :: (colon ++ ':' :: (e.before ++ (e.value ++ t)))) := by simp [hspelled]
    have hskip := skipString_append hu (colon ++ ':' :: (e.before ++ (e.value ++ t)))
    have hquote (r : List Char) : skipSpace ('"' :: r) = '"' :: r := rfl
    refine ⟨e.before, he.before, Nat.le_refl _, ?_⟩
    rw [htext, Json.skipOpening, Json.skipSpace_append (hgap.append hlead) rfl]
    simp [Bracket.closing, Bracket.skipKey, hquote, hskip, hcolon.expectColon]

end EntryText

/-- Every value is passed over, however deep it nests. -/
theorem IsValue.skipped {v : List Char} (h : IsValue v) : Skipped v := by
  induction h with
  | null => exact IsValue.null.skipped_of_skipOne fun bs tail _ cs hcs => by rw [skipOne, hcs]; rfl
  | isTrue => exact IsValue.isTrue.skipped_of_skipOne fun bs tail _ cs hcs => by rw [skipOne, hcs]; rfl
  | isFalse => exact IsValue.isFalse.skipped_of_skipOne fun bs tail _ cs hcs => by rw [skipOne, hcs]; rfl
  | string hu =>
    refine (IsValue.string hu).skipped_of_skipOne fun bs tail _ cs hcs => ?_
    have hskip := skipString_append hu tail
    rw [skipOne, hcs]
    simp [hskip, bind, Except.bind]
  | @number u hu =>
    refine (IsValue.number hu).skipped_of_skipOne fun bs tail htail cs hcs => ?_
    have hskip := skipNumber_append hu htail
    obtain ⟨c, t, rfl, hc⟩ := hu.exists_head
    have hne := fun d (hd : isDigit d = false) => ne_of_isDigit hc hd
    rw [List.cons_append] at hskip hcs
    rw [skipOne, hcs]
    simp [hne 'n' (by decide), hne 't' (by decide), hne 'f' (by decide), hne '"' (by decide), hne '-' (by decide),
      hne '[' (by decide), hne '{' (by decide), hc, hskip, bind, Except.bind]
  | negative hu =>
    refine (IsValue.negative hu).skipped_of_skipOne fun bs tail htail cs hcs => ?_
    have hskip := skipNumber_append hu htail
    rw [skipOne, hcs]
    simp [hskip, bind, Except.bind]
  | @entries b gap es hgap hfits hvalues ih =>
    intro bs ws tail n hws htail hn
    have hopen : skipSpace (ws ++ (b.around gap es ++ tail)) = b.around gap es ++ tail :=
      (IsValue.entries b hgap hfits hvalues).skipSpace_append hws tail
    obtain ⟨n, rfl⟩ : ∃ m, n = m + 1 := ⟨n - 1, by omega⟩
    have hone (t : List Char) (ht : b.around gap es ++ tail = b.opening :: t) :
        skipOne bs (ws ++ (b.around gap es ++ tail)) = skipOpening b bs t := by
      rw [skipOne, hopen, ht]
      cases b <;> rfl
    cases es with
    | nil =>
      rw [EntryText.around_nil_append] at hone hn ⊢
      refine ⟨n, ?_, skipWithin_succ_of_skipOne ((hone _ rfl).trans ?_)⟩
      · simp only [List.length_append, List.length_cons] at hn
        omega
      · rw [skipOpening, Json.skipSpace_append hgap b.isSpace_closing]
        simp
    | cons e es =>
      have he := hfits e (by simp)
      rw [EntryText.around_append] at hone hn ⊢
      obtain ⟨vs, hvs, hle, hskip⟩ := he.skipOpening (hvalues e (by simp)) hgap bs (EntryText.rest b e.after es tail)
      have hlength : (vs ++ (e.value ++ EntryText.rest b e.after es tail)).length < n := by
        simp only [List.length_append, List.length_cons] at hn ⊢
        omega
      obtain ⟨m, hm, hvalue⟩ := ih e (by simp) (b :: bs) hvs (EntryText.ends_rest he.after es tail) hlength
      obtain ⟨k, hk, hrest⟩ := EntryText.skipOn_rest bs (fun f hf => hfits f (by simp [hf]))
        (fun f hf => ih f (by simp [hf])) he.after hm
      refine ⟨k, hk, ?_⟩
      rw [skipWithin, hone _ rfl, hskip]
      exact hvalue.trans hrest

/-- A value is passed over to its end. -/
theorem skipValue_append {v ws tail : List Char} (h : IsValue v) (hws : IsBlank ws) (htail : Ends tail) (lim : Limits)
    (hlim : (ws ++ (v ++ tail)).length < lim.entries) : skipValue lim (ws ++ (v ++ tail)) = .ok tail := by
  obtain ⟨m, -, hskip⟩ := h.skipped [] hws htail hlim
  exact hskip

end Webform.Json
