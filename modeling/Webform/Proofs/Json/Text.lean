import Webform.Json.Codec

/-!
# Pieces of JSON text read back

What is written for a string, an integer or an identifier is read back as it was, whatever follows it; of a number what follows
must not go on with it (`Ends`).
-/

namespace Webform

namespace Json

/-! ## Blanks -/

/-- Blanks are passed over, up to the first character that is none. -/
theorem skipSpace_append {ws cs : List Char} {c : Char} (hws : ∀ d ∈ ws, isSpace d = true) (hc : isSpace c = false) :
    skipSpace (ws ++ c :: cs) = c :: cs := by
  induction ws with
  | nil => simp [skipSpace, hc]
  | cons d ws ih =>
    rw [List.cons_append, skipSpace, List.dropWhile_cons_of_pos (hws d (by simp))]
    exact ih fun e he => hws e (by simp [he])

/-! ## Strings -/

theorem hexFour?_control : ∀ n < 32, hexFour? '0' '0' (Nat.digitChar (n / 16)) (Nat.digitChar (n % 16)) = some n := by decide

/-- A character that was escaped is read back before whatever else the string holds. -/
theorem scanString_escapeChar {cs s rest : List Char} (h : scanString cs = .ok (s, rest)) (c : Char) :
    scanString (escapeChar c ++ cs) = .ok (c :: s, rest) := by
  by_cases hshort : c ∈ ['"', '\\', '\n', '\r', '\t', '\x08', '\x0c']
  · simp only [List.mem_cons, List.not_mem_nil, or_false] at hshort
    rcases hshort with rfl | rfl | rfl | rfl | rfl | rfl | rfl <;> simp [escapeChar, scanString, simpleEscape?, h]
  simp only [List.mem_cons, List.not_mem_nil, or_false, not_or] at hshort
  obtain ⟨hquote, hslash, hn, hr, ht, hb, hf⟩ := hshort
  by_cases hcontrol : c.toNat < 0x20
  · -- The digits of the number of the character, which is no surrogate.
    have hlow : ¬(0xDC00 ≤ c.toNat ∧ c.toNat ≤ 0xDFFF) := by omega
    have hhigh : ¬(0xD800 ≤ c.toNat ∧ c.toNat ≤ 0xDBFF) := by omega
    simp [escapeChar, hquote, hslash, hn, hr, ht, hb, hf, hcontrol, scanString, hexFour?_control c.toNat hcontrol, hlow, hhigh, h]
  · simp [escapeChar, hquote, hslash, hn, hr, ht, hb, hf, hcontrol, scanString, h]

/-- A string is read back from what stands between its quotes. -/
theorem scanString_escape (s rest : List Char) : scanString (s.flatMap escapeChar ++ '"' :: rest) = .ok (s, rest) := by
  induction s with
  | nil => rfl
  | cons c s ih =>
    rw [List.flatMap_cons, List.append_assoc]
    exact scanString_escapeChar ih c

/-- The written form of a string starts with a quote, and what follows is read up to its end. -/
theorem stringToList_append (s : String) (rest : List Char) :
    stringToList s ++ rest = '"' :: (s.toList.flatMap escapeChar ++ '"' :: rest) := by
  simp [stringToList]

/-! ## Integers -/

/-- What may follow a number: no digit, and nothing that a fraction or an exponent starts with. -/
def Ends (rest : List Char) : Prop :=
  ∀ c ∈ rest.head?, isDigit c = false ∧ c ≠ '.' ∧ c ≠ 'e' ∧ c ≠ 'E'

theorem Ends.nil : Ends [] := by
  intro c hc
  cases hc

theorem Ends.cons {c : Char} (hc : isDigit c = false ∧ c ≠ '.' ∧ c ≠ 'e' ∧ c ≠ 'E') (cs : List Char) : Ends (c :: cs) := by
  rintro d ⟨⟩
  exact hc

theorem isDigit_of_mem_toDigits {n : Nat} {c : Char} (h : c ∈ Nat.toDigits 10 n) : isDigit c = true := by
  have hc := Nat.isDigit_of_mem_toDigits (by decide) (by decide) h
  simpa [isDigit, Char.isDigit, Char.le_def] using hc

/-- Digits are taken as long as what they write fits. -/
theorem takeDigits_eq {n : Nat} {ds : List Char} (hfits : Nat.ofDigitChars 10 ds n ≤ maxNatural) :
    takeDigits n ds = (Nat.ofDigitChars 10 ds n, []) := by
  induction ds generalizing n with
  | nil => rfl
  | cons d ds ih =>
    have hstep : Nat.ofDigitChars 10 (d :: ds) n = Nat.ofDigitChars 10 ds (n * 10 + digitValue d) := by
      rw [Nat.ofDigitChars_cons, Nat.mul_comm n 10]
      rfl
    have hle : n * 10 + digitValue d ≤ Nat.ofDigitChars 10 ds (n * 10 + digitValue d) := by
      rw [Nat.ofDigitChars_eq_ofDigitChars_zero]
      have := Nat.le_mul_of_pos_left (n * 10 + digitValue d) (Nat.pow_pos (n := ds.length) (by decide : 0 < 10))
      omega
    rw [hstep] at hfits ⊢
    rw [takeDigits, if_pos (Nat.le_trans hle hfits), ih hfits]

/-- The digits of a number start with a zero only if that is all they are. -/
theorem eq_zero_of_toDigits {n : Nat} {ds : List Char} (h : Nat.toDigits 10 n = '0' :: ds) : n = 0 := by
  induction n using Nat.strongRecOn generalizing ds with
  | ind n ih =>
    rw [Nat.toDigits_eq_if (by decide)] at h
    split at h
    · rename_i hlt
      have hzero : ∀ m < 10, Nat.digitChar m = '0' → m = 0 := by decide
      exact hzero n hlt (List.cons.inj h).1
    · rename_i hge
      obtain ⟨c, cs, hcs⟩ := List.exists_cons_of_ne_nil (Nat.toDigits_ne_nil (n := n / 10) (b := 10))
      rw [hcs, List.cons_append] at h
      have hquotient : n / 10 = 0 := ih (n / 10) (by omega) (hcs.trans (by rw [(List.cons.inj h).1]))
      omega

/-- A number ends where its digits do. -/
theorem scanTail_of_ends {negative : Bool} {n : Nat} {rest : List Char} (hrest : Ends rest) :
    scanTail negative n [] rest = integerNumber negative n rest := by
  cases rest with
  | nil => rfl
  | cons c cs =>
    obtain ⟨-, hpoint, he, hE⟩ := hrest c rfl
    simp [scanTail, hpoint, he, hE]

/-- Digits are cut off where something else follows. -/
theorem spanDigits_append {ds rest : List Char} (hds : ∀ c ∈ ds, isDigit c = true) (hrest : Ends rest) :
    spanDigits (ds ++ rest) = (ds, rest) := by
  induction ds with
  | nil =>
    cases rest with
    | nil => rfl
    | cons c cs => simp [spanDigits, (hrest c rfl).1]
  | cons d ds ih =>
    have hcut := ih fun c hc => hds c (by simp [hc])
    simp only [spanDigits, Prod.mk.injEq] at hcut
    simp [spanDigits, hds d (by simp), hcut]

/-- The digits of a number of 64 bits are read as that number. -/
theorem scanNumber_toDigits {negative : Bool} {n : Nat} {rest : List Char} (hn : n ≤ maxNatural) (hrest : Ends rest) :
    scanNumber negative (Nat.toDigits 10 n ++ rest) = integerNumber negative n rest := by
  by_cases hzero : n = 0
  · subst hzero
    rw [Nat.toDigits_zero, List.cons_append, List.nil_append, ← scanTail_of_ends hrest]
    cases rest with
    | nil => rfl
    | cons c cs => simp [scanNumber, (hrest c rfl).1]
  · have hdigits : ∀ c ∈ Nat.toDigits 10 n, isDigit c = true := fun c hc => isDigit_of_mem_toDigits hc
    have hspan := spanDigits_append hdigits hrest
    have htake : takeDigits 0 (Nat.toDigits 10 n) = (n, []) := by
      have hfits : Nat.ofDigitChars 10 (Nat.toDigits 10 n) 0 ≤ maxNatural := by rwa [Nat.ofDigitChars_ten_toDigits]
      rw [takeDigits_eq hfits, Nat.ofDigitChars_ten_toDigits]
    obtain ⟨c, cs, hcs⟩ := List.exists_cons_of_ne_nil (Nat.toDigits_ne_nil (n := n) (b := 10))
    have hc : c ≠ '0' := by
      rintro rfl
      exact hzero (eq_zero_of_toDigits hcs)
    rw [hcs] at hspan htake hdigits ⊢
    rw [List.cons_append] at hspan ⊢
    simp [scanNumber, hdigits c (by simp), hspan, htake, scanTail_of_ends hrest]

theorem ne_of_isDigit {c d : Char} (hc : isDigit c = true) (hd : isDigit d = false) : c ≠ d := by
  rintro rfl
  rw [hc] at hd
  cases hd

/-- An integer of 64 bits is written as digits, after a minus sign or not, that are read back as that integer. -/
theorem scanNumber_integerToList {i : Int} {rest : List Char} (hi : Number.Fits i) (hrest : Ends rest) :
    (∃ cs, integerToList i = '-' :: cs ∧ scanNumber true (cs ++ rest) = .ok (.integer i, rest)) ∨
      ∃ c cs, integerToList i = c :: cs ∧ isDigit c = true ∧ scanNumber false (c :: cs ++ rest) = .ok (.integer i, rest) := by
  obtain ⟨hlow, hhigh⟩ := hi
  simp only [Nat.pow_eq, Int.natCast_pow] at hlow hhigh
  by_cases hneg : i < 0
  · refine Or.inl ⟨Nat.toDigits 10 i.natAbs, by rw [integerToList, if_pos hneg], ?_⟩
    have hsize : ¬(i.natAbs = 0 ∨ Nat.pow 2 63 < i.natAbs) := by
      simp only [Nat.pow_eq]
      omega
    rw [scanNumber_toDigits (by simp only [maxNatural, Nat.pow_eq]; omega) hrest, integerNumber]
    simp only [Bool.not_true, Bool.false_eq_true, if_false, hsize]
    congr
    omega
  · obtain ⟨c, cs, hcs⟩ := List.exists_cons_of_ne_nil (Nat.toDigits_ne_nil (n := i.natAbs) (b := 10))
    have hdigit : c.isDigit = true := isDigit_of_mem_toDigits (n := i.natAbs) (by rw [hcs]; simp)
    refine Or.inr ⟨c, cs, by rw [integerToList, if_neg hneg, hcs], hdigit, ?_⟩
    rw [← hcs, scanNumber_toDigits (by simp only [maxNatural, Nat.pow_eq]; omega) hrest, integerNumber]
    simp only [Bool.not_false, if_true]
    congr
    omega

/-- An integer of 64 bits is read back. -/
theorem readNumber_integerToList {expected : String} {i : Int} {ws rest : List Char} (hi : Number.Fits i)
    (hws : ∀ c ∈ ws, isSpace c = true) (hrest : Ends rest) :
    readNumber expected (ws ++ integerToList i ++ rest) = .ok (.integer i, rest) := by
  rcases scanNumber_integerToList hi hrest with ⟨cs, htext, hscan⟩ | ⟨c, cs, htext, hc, hscan⟩
  · rw [htext, List.append_assoc, List.cons_append, readNumber, skipSpace_append hws (by decide)]
    exact hscan
  · have hspace : isSpace c = false := by
      simp [isSpace, ne_of_isDigit hc (d := ' ') (by decide), ne_of_isDigit hc (d := '\n') (by decide),
        ne_of_isDigit hc (d := '\t') (by decide), ne_of_isDigit hc (d := '\r') (by decide)]
    rw [htext, List.append_assoc, List.cons_append, readNumber, skipSpace_append hws hspace]
    have hminus := ne_of_isDigit hc (d := '-') (by decide)
    simpa [hminus, hc] using hscan

end Json

/-! ## Identifiers -/

namespace Identifier

theorem digitValue?_digitChar : ∀ d < 16, digitValue? (Nat.digitChar d) = some d := by decide

/-- Digits from a place on down write the rest of a number after those above it. -/
theorem digitsValue?_digits (v : BitVec 128) (n : Nat) :
    digitsValue? (v.toNat / Nat.pow 16 n) ((List.range n).reverse.map (digit v)) = some v.toNat := by
  induction n with
  | zero => simp [digitsValue?]
  | succ n ih =>
    have hstep : v.toNat / Nat.pow 16 (n + 1) * 16 + v.toNat / Nat.pow 16 n % 16 = v.toNat / Nat.pow 16 n := by
      have hdiv : v.toNat / Nat.pow 16 (n + 1) = v.toNat / Nat.pow 16 n / 16 := (Nat.div_div_eq_div_mul _ _ _).symm
      rw [hdiv]
      omega
    have hdigit := digitValue?_digitChar (v.toNat / Nat.pow 16 n % 16) (Nat.mod_lt _ (by decide))
    simp only [List.range_succ, List.reverse_append, List.reverse_cons, List.reverse_nil, List.nil_append, List.cons_append,
      List.map_cons, digitsValue?, digit, hdigit, hstep]
    exact ih

theorem length_digits (i : Identifier) : i.digits.length = 32 := by
  simp [digits]

/-- The digits of an identifier are read back. -/
theorem ofDigits?_digits (i : Identifier) : ofDigits? i.digits = some i := by
  have hplaces : i.digits = (List.range 32).reverse.map (digit i.value) := rfl
  have hnone : i.value.toNat / Nat.pow 16 32 = 0 := Nat.div_eq_of_lt i.value.isLt
  have hvalue := digitsValue?_digits i.value 32
  rw [hnone] at hvalue
  rw [ofDigits?, if_pos i.length_digits, hplaces, hvalue]
  simp [ofNat]

/-- Groups of the right lengths are read as the digits in them. -/
theorem ofGroups?_append {a b c d e : List Char} (ha : a.length = 8) (hb : b.length = 4) (hc : c.length = 4) (hd : d.length = 4)
    (he : e.length = 12) :
    ofGroups? (a ++ '-' :: b ++ '-' :: c ++ '-' :: d ++ '-' :: e) = ofDigits? (a ++ b ++ c ++ d ++ e) := by
  have hlength : (a ++ '-' :: b ++ '-' :: c ++ '-' :: d ++ '-' :: e).length = 36 := by
    simp [ha, hb, hc, hd, he]
  have hhyphens : ∀ k ∈ [8, 13, 18, 23], (a ++ '-' :: b ++ '-' :: c ++ '-' :: d ++ '-' :: e)[k]? = some '-' := by
    simp [List.getElem?_append, ha, hb, hc, hd]
  rw [ofGroups?, if_pos ⟨hlength, by simpa using hhyphens⟩]
  simp [List.drop_append, List.drop_of_length_le, ha, hb, hc, hd]

/-- What is written for an identifier is read back as it. -/
theorem read_toString (i : Identifier) : Identifier.read i.toString = .ok i := by
  have hlength := i.length_digits
  have hgroups : ofGroups? i.toList = some i := by
    unfold toList
    rw [ofGroups?_append (by simp [hlength]) (by simp [hlength]) (by simp [hlength]) (by simp [hlength]) (by simp [hlength])]
    -- Put together again, the groups are the thirty-two digits.
    exact i.ofDigits?_digits
  have hnone : ofDigits? i.toList = none := by
    rw [ofDigits?, if_neg (by simp [toList, hlength])]
  rw [Identifier.read, toString, String.toList_ofList, ofList?, hnone, hgroups]

end Identifier

end Webform
