import Webform.Proofs.Json.Text

/-!
# Written values in a text

`Written v lim cs rest` says that the text `cs` starts with the value `v`, set in some layout after some blanks, that `rest`
follows, and that the limits have room for it. A reader `Reads` a value if it gives the same result wherever the value is
written. Lists and objects are taken apart once, for every reader of their entries: `Written.array` and `Written.object`.
-/

namespace Webform.Json

/-! ## Layouts -/

/-- Between entries, and between a key and its value, the layout sets blanks only. -/
structure Layout.Spaced (l : Layout) : Prop where
  indent : ∀ level, ∀ c ∈ l.indent level, isSpace c = true
  colon : ∃ ws, l.colon = ':' :: ws ∧ ∀ c ∈ ws, isSpace c = true

theorem Layout.spaced_compact : Layout.compact.Spaced :=
  ⟨by simp [compact], [], rfl, by simp⟩

theorem Layout.spaced_pretty : Layout.pretty.Spaced := by
  refine ⟨fun level c hc => ?_, [' '], rfl, by simp [isSpace]⟩
  rcases List.mem_cons.1 hc with rfl | hc
  · rfl
  · rw [List.eq_of_mem_replicate hc]
    rfl

theorem Ends.blank {c : Char} (h : isSpace c = true) (cs : List Char) : Ends (c :: cs) := by
  simp only [isSpace, Bool.or_eq_true, decide_eq_true_eq] at h
  rcases h with ((rfl | rfl) | rfl) | rfl <;> exact .cons (by decide) cs

/-- Blanks before a closing bracket end a number as the bracket does. -/
theorem Ends.append {ws rest : List Char} (hws : ∀ c ∈ ws, isSpace c = true) (h : Ends rest) : Ends (ws ++ rest) := by
  cases ws with
  | nil => exact h
  | cons c ws => exact .blank (hws c (by simp)) (ws ++ rest)

/-! ## Values -/

namespace Value

mutual

/-- How many brackets are open at a time in the text of a value. -/
def depth : Value → Nat
  | array vs => itemsDepth vs + 1
  | object ms => membersDepth ms + 1
  | null => 0
  | bool _ => 0
  | number _ => 0
  | string _ => 0

/-- The largest depth of the items of a list. -/
def itemsDepth : List Value → Nat
  | [] => 0
  | v :: vs => max v.depth (itemsDepth vs)

/-- The largest depth of the members of an object. -/
def membersDepth : List (String × Value) → Nat
  | [] => 0
  | (_, v) :: ms => max v.depth (membersDepth ms)

end

theorem depth_le_itemsDepth {v : Value} {vs : List Value} (h : v ∈ vs) : v.depth ≤ itemsDepth vs := by
  induction vs with
  | nil => cases h
  | cons w vs ih =>
    rw [itemsDepth]
    rcases List.mem_cons.1 h with rfl | h
    · exact Nat.le_max_left _ _
    · exact Nat.le_trans (ih h) (Nat.le_max_right _ _)

theorem depth_le_membersDepth {m : String × Value} {ms : List (String × Value)} (h : m ∈ ms) : m.2.depth ≤ membersDepth ms := by
  induction ms with
  | nil => cases h
  | cons n ms ih =>
    rw [membersDepth]
    rcases List.mem_cons.1 h with rfl | h
    · exact Nat.le_max_left _ _
    · exact Nat.le_trans (ih h) (Nat.le_max_right _ _)

/-- The first character of a value is neither a blank nor a bracket that closes, and `n` only in `null`. -/
def Heads (v : Value) (c : Char) : Prop :=
  isSpace c = false ∧ c ≠ ']' ∧ (c = 'n' → v = .null)

theorem Heads.of {v : Value} {c : Char} (h : isSpace c = false ∧ c ≠ ']' ∧ c ≠ 'n') : v.Heads c :=
  ⟨h.1, h.2.1, fun hn => absurd hn h.2.2⟩

theorem heads_of_isDigit {v : Value} {c : Char} (h : isDigit c = true) : v.Heads c := by
  have hne := fun d (hd : isDigit d = false) => ne_of_isDigit h hd
  refine .of ⟨?_, hne ']' (by decide), hne 'n' (by decide)⟩
  simp [isSpace, hne ' ' (by decide), hne '\n' (by decide), hne '\t' (by decide), hne '\r' (by decide)]

end Value

/-- The digits of a number before whatever follows. -/
theorem exists_head_toDigits (n : Nat) : ∃ c cs, Nat.toDigits 10 n = c :: cs ∧ isDigit c = true := by
  obtain ⟨c, cs, hcs⟩ := List.exists_cons_of_ne_nil (Nat.toDigits_ne_nil (n := n) (b := 10))
  exact ⟨c, cs, hcs, isDigit_of_mem_toDigits (n := n) (by rw [hcs]; simp)⟩

theorem Double.exists_head_sizeToList (d : Double) : ∃ c cs, d.sizeToList = c :: cs ∧ isDigit c = true := by
  unfold sizeToList
  split
  · exact ⟨'0', ['.', '0'], rfl, rfl⟩
  · obtain ⟨c, cs, hcs, hc⟩ := exists_head_toDigits (stripZeros 17 d.shortest.1 d.shortest.2).1
    simp only [hcs]
    split
    · exact ⟨c, _, rfl, hc⟩
    · split
      · rename_i h
        obtain ⟨k, hk⟩ : ∃ k, (((c :: cs).length : Int) + (stripZeros 17 d.shortest.1 d.shortest.2).2).toNat = k + 1 :=
          ⟨_, (Nat.succ_pred_eq_of_pos (by omega)).symm⟩
        rw [hk]
        exact ⟨c, _, rfl, hc⟩
      · split
        · exact ⟨'0', _, rfl, rfl⟩
        · exact ⟨c, _, rfl, hc⟩

/-- What a number starts with: a digit, or the minus sign before one. -/
theorem Number.exists_head_toList (n : Number) : ∃ c cs, n.toList = c :: cs ∧ (c = '-' ∨ isDigit c = true) := by
  cases n with
  | integer i =>
    obtain ⟨c, cs, hcs, hc⟩ := exists_head_toDigits i.natAbs
    rw [toList, integerToList, hcs]
    split
    · exact ⟨'-', _, rfl, Or.inl rfl⟩
    · exact ⟨c, cs, rfl, Or.inr hc⟩
  | double d =>
    obtain ⟨c, cs, hcs, hc⟩ := d.exists_head_sizeToList
    rw [toList, Double.toList, hcs]
    split
    · exact ⟨'-', _, rfl, Or.inl rfl⟩
    · exact ⟨c, cs, rfl, Or.inr hc⟩

/-- The text of a value is not empty, and its first character tells it from blanks and from what stands between values. -/
theorem Value.exists_head_toList (v : Value) (layout : Layout) (level : Nat) :
    ∃ c cs, v.toList layout level = c :: cs ∧ v.Heads c := by
  unfold toList
  split
  · exact ⟨'n', _, rfl, by decide, by decide, fun _ => rfl⟩
  · rename_i b
    cases b
    · exact ⟨'f', _, rfl, .of (by decide)⟩
    · exact ⟨'t', _, rfl, .of (by decide)⟩
  · rename_i n
    obtain ⟨c, cs, hcs, rfl | hc⟩ := n.exists_head_toList
    · exact ⟨'-', cs, hcs, .of (by decide)⟩
    · exact ⟨c, cs, hcs, heads_of_isDigit hc⟩
  · exact ⟨'"', _, rfl, .of (by decide)⟩
  · exact ⟨'[', _, rfl, .of (by decide)⟩
  · exact ⟨'[', _, rfl, .of (by decide)⟩
  · exact ⟨'{', _, rfl, .of (by decide)⟩
  · exact ⟨'{', _, rfl, .of (by decide)⟩

/-! ## A value and what follows it -/

/-- The text starts with the value, after blanks and in some layout; `rest` follows, and the limits have room for the value. -/
structure Written (v : Value) (lim : Limits) (cs rest : List Char) : Prop where
  text : ∃ layout level ws, layout.Spaced ∧ (∀ c ∈ ws, isSpace c = true) ∧ cs = ws ++ v.toList layout level ++ rest
  ends : Ends rest
  shallow : v.depth ≤ lim.depth
  short : cs.length < lim.entries

/-- The reader reads the value as `a`, wherever it is written. -/
def Reads {α : Type} (r : Reader α) (v : Value) (a : α) : Prop :=
  ∀ lim cs rest, Written v lim cs rest → r lim cs = .ok (a, rest)

namespace Written

variable {v : Value} {lim : Limits} {cs rest : List Char}

theorem here {layout : Layout} (hl : layout.Spaced) (level : Nat) (hrest : Ends rest) (hdepth : v.depth ≤ lim.depth)
    (hshort : (v.toList layout level ++ rest).length < lim.entries) : Written v lim (v.toList layout level ++ rest) rest :=
  ⟨⟨layout, level, [], hl, by simp, rfl⟩, hrest, hdepth, hshort⟩

/-- What is left when the blanks are passed over is the value. -/
theorem skipSpace_eq (h : Written v lim cs rest) :
    ∃ layout level, layout.Spaced ∧ skipSpace cs = v.toList layout level ++ rest := by
  obtain ⟨layout, level, ws, hl, hws, rfl⟩ := h.text
  obtain ⟨c, t, ht, hc⟩ := v.exists_head_toList layout level
  refine ⟨layout, level, hl, ?_⟩
  rw [ht, List.append_assoc, List.cons_append]
  exact skipSpace_append hws hc.1

theorem length_skipSpace_lt (h : Written v lim cs rest) : (skipSpace cs).length < lim.entries :=
  Nat.lt_of_le_of_lt (List.dropWhile_sublist _).length_le h.short

end Written

/-! ## Lists -/

section Lists

variable {α β : Type} {layout : Layout} {level outer : Nat} {rest : List Char}

/-- The first element of a list starts after blanks. -/
theorem nextElement_first {ws : List Char} (hws : ∀ c ∈ ws, isSpace c = true) (v : Value) :
    nextElement true (ws ++ (v.toList layout level ++ rest)) =
      .ok (some (v.toList layout level ++ rest), v.toList layout level ++ rest) := by
  obtain ⟨c, cs, hcs, hc⟩ := v.exists_head_toList layout level
  simp [nextElement, hcs, skipSpace_append hws hc.1, hc.2.1]

/-- A further element of a list starts after a comma and blanks. -/
theorem nextElement_next {ws : List Char} (hws : ∀ c ∈ ws, isSpace c = true) (v : Value) :
    nextElement false (',' :: (ws ++ (v.toList layout level ++ rest))) =
      .ok (some (v.toList layout level ++ rest), v.toList layout level ++ rest) := by
  obtain ⟨c, cs, hcs, hc⟩ := v.exists_head_toList layout level
  have hcomma : ∀ t, skipSpace (',' :: t) = ',' :: t := fun _ => rfl
  simp [nextElement, hcs, hcomma, skipSpace_append hws hc.1, hc.2.1]

/-- What follows an element of a list: the items after it and the bracket that closes the list, set at an outer level. -/
def listRest (layout : Layout) (level outer : Nat) (vs : List Value) (rest : List Char) : List Char :=
  Value.itemsToList layout level vs ++ layout.indent outer ++ ']' :: rest

theorem listRest_nil : listRest layout level outer [] rest = layout.indent outer ++ ']' :: rest := rfl

theorem listRest_cons (v : Value) (vs : List Value) :
    listRest layout level outer (v :: vs) rest =
      ',' :: (layout.indent level ++ (v.toList layout level ++ listRest layout level outer vs rest)) := by
  simp [listRest, Value.itemsToList]

theorem ends_listRest (hl : layout.Spaced) (vs : List Value) : Ends (listRest layout level outer vs rest) := by
  cases vs with
  | nil =>
    rw [listRest_nil]
    exact .append (hl.indent outer) (.cons (by decide) rest)
  | cons v vs =>
    rw [listRest_cons]
    exact .cons (by decide) _

/-- The elements after the first are read one after another. -/
theorem readElements_listRest {r : Reader α} {w : β → Value} {norm : β → α} {lim : Limits} (hl : layout.Spaced) (bs : List β)
    (hreads : ∀ b ∈ bs, Reads r (w b) (norm b)) (hdepth : ∀ b ∈ bs, (w b).depth ≤ lim.depth) {n : Nat} (hlim : n ≤ lim.entries)
    (hn : (listRest layout level outer (bs.map w) rest).length < n) :
    readElements (r lim) n false (listRest layout level outer (bs.map w) rest) = .ok (bs.map norm, rest) := by
  induction bs generalizing n with
  | nil =>
    obtain ⟨n, rfl⟩ : ∃ m, n = m + 1 := ⟨n - 1, by omega⟩
    have hclose : skipSpace (']' :: rest) = ']' :: rest := rfl
    simp [listRest_nil, readElements, nextElement, skipSpace_append (hl.indent outer) (rfl : isSpace ']' = false), closeList,
      hclose]
  | cons b bs ih =>
    obtain ⟨n, rfl⟩ : ∃ m, n = m + 1 := ⟨n - 1, by omega⟩
    rw [List.map_cons, listRest_cons] at hn ⊢
    simp only [List.length_cons, List.length_append] at hn
    have hread := hreads b (by simp) lim _ (listRest layout level outer (bs.map w) rest)
      (.here hl level (ends_listRest hl (bs.map w)) (hdepth b (by simp)) (by
        rw [List.length_append]
        omega))
    have hrest := ih (fun b hb => hreads b (by simp [hb])) (fun b hb => hdepth b (by simp [hb])) (n := n) (by omega) (by omega)
    rw [readElements, nextElement_next (hl.indent level)]
    simp only [hread, hrest, List.map_cons]

/-- A list that is written is a bracket, then text of which every reader that reads its elements makes the list of what they are
read as. -/
theorem Written.array {r : Reader α} {w : β → Value} {norm : β → α} {lim : Limits} {cs : List Char} {bs : List β}
    (h : Written (.array (bs.map w)) lim cs rest) (hreads : ∀ b ∈ bs, Reads r (w b) (norm b)) :
    ∃ d body, lim.depth = d + 1 ∧ skipSpace cs = '[' :: body ∧
      readElements (r ⟨lim.entries, d⟩) lim.entries true body = .ok (bs.map norm, rest) := by
  have hlist := h.shallow
  rw [Value.depth] at hlist
  obtain ⟨d, hd⟩ : ∃ d, lim.depth = d + 1 := ⟨lim.depth - 1, by omega⟩
  have hdepth : ∀ b ∈ bs, (w b).depth ≤ d := by
    intro b hb
    have hitem := Value.depth_le_itemsDepth (List.mem_map_of_mem (f := w) hb)
    omega
  obtain ⟨layout, level, hl, hskip⟩ := h.skipSpace_eq
  have hshort := h.length_skipSpace_lt
  obtain ⟨n, hn⟩ : ∃ n, lim.entries = n + 1 := ⟨lim.entries - 1, by omega⟩
  rw [hn] at hshort ⊢
  cases bs with
  | nil => exact ⟨d, ']' :: rest, hd, hskip, rfl⟩
  | cons b bs =>
    have hbody : skipSpace cs =
        '[' :: (layout.indent (level + 1) ++
          ((w b).toList layout (level + 1) ++ listRest layout (level + 1) level (bs.map w) rest)) := by
      rw [hskip]
      simp [Value.toList, listRest]
    rw [hbody] at hshort
    simp only [List.length_append, List.length_cons] at hshort
    refine ⟨d, _, hd, hbody, ?_⟩
    have hread := hreads b (by simp) ⟨n + 1, d⟩ _ (listRest layout (level + 1) level (bs.map w) rest)
      (.here hl (level + 1) (ends_listRest hl (bs.map w)) (hdepth b (by simp)) (by
        rw [List.length_append]
        show _ < n + 1
        omega))
    have hrest : readElements (r ⟨n + 1, d⟩) n false (listRest layout (level + 1) level (bs.map w) rest) =
        .ok (bs.map norm, rest) :=
      readElements_listRest hl bs (fun b hb => hreads b (by simp [hb])) (fun b hb => hdepth b (by simp [hb])) (Nat.le_succ n)
        (by omega)
    rw [readElements, nextElement_first (hl.indent (level + 1))]
    simp only [hread, hrest, List.map_cons]

end Lists

/-! ## Objects -/

section Objects

variable {σ : Type} {layout : Layout} {level outer : Nat} {rest : List Char}

/-- After its key, a member with the value takes what was made so far from `a` to `b`. -/
def Feeds (member : Limits → σ → String → List Char → Scan σ) (key : String) (v : Value) (a b : σ) : Prop :=
  ∀ lim cs t rest, expectColon cs = .ok t → Written v lim t rest → member lim a key cs = .ok (b, rest)

/-- Members that are read one after another take what was made so far from the first state to the last. -/
inductive Chain (member : Limits → σ → String → List Char → Scan σ) : Members → σ → σ → Prop where
  | nil (a : σ) : Chain member [] a a
  | cons {key : String} {v : Value} {ms : Members} {a b c : σ} :
      Feeds member key v a b → Chain member ms b c → Chain member ((key, v) :: ms) a c

/-- What follows a member of an object: the members after it and the bracket that closes the object, set at an outer level. -/
def objectRest (layout : Layout) (level outer : Nat) (ms : Members) (rest : List Char) : List Char :=
  Value.membersToList layout level ms ++ layout.indent outer ++ '}' :: rest

theorem objectRest_nil : objectRest layout level outer [] rest = layout.indent outer ++ '}' :: rest := rfl

theorem objectRest_cons (key : String) (v : Value) (ms : Members) :
    objectRest layout level outer ((key, v) :: ms) rest =
      ',' :: (layout.indent level ++
        (stringToList key ++ (layout.colon ++ (v.toList layout level ++ objectRest layout level outer ms rest)))) := by
  simp [objectRest, Value.membersToList]

theorem ends_objectRest (hl : layout.Spaced) (ms : Members) : Ends (objectRest layout level outer ms rest) := by
  rcases ms with _ | ⟨⟨key, v⟩, ms⟩
  · rw [objectRest_nil]
    exact .append (hl.indent outer) (.cons (by decide) rest)
  · rw [objectRest_cons]
    exact .cons (by decide) _

/-- The first key of an object starts after blanks. -/
theorem nextKey_first {ws : List Char} (hws : ∀ c ∈ ws, isSpace c = true) (key : String) (t : List Char) :
    nextKey true (ws ++ (stringToList key ++ t)) =
      .ok (some (key.toList.flatMap escapeChar ++ '"' :: t), key.toList.flatMap escapeChar ++ '"' :: t) := by
  rw [stringToList_append, nextKey, skipSpace_append hws (by decide)]
  rfl

/-- A further key of an object starts after a comma and blanks. -/
theorem nextKey_next {ws : List Char} (hws : ∀ c ∈ ws, isSpace c = true) (key : String) (t : List Char) :
    nextKey false (',' :: (ws ++ (stringToList key ++ t))) =
      .ok (some (key.toList.flatMap escapeChar ++ '"' :: t), key.toList.flatMap escapeChar ++ '"' :: t) := by
  have hcomma : ∀ t, skipSpace (',' :: t) = ',' :: t := fun _ => rfl
  simp [stringToList_append, nextKey, hcomma, skipSpace_append hws (rfl : isSpace '"' = false)]

/-- What a member makes of its value, the key before it being read. -/
theorem Feeds.read {member : Limits → σ → String → List Char → Scan σ} {key : String} {v : Value} {a b : σ} {lim : Limits}
    (h : Feeds member key v a b) (hl : layout.Spaced) (level : Nat) (hrest : Ends rest) (hdepth : v.depth ≤ lim.depth)
    (hshort : (layout.colon ++ (v.toList layout level ++ rest)).length < lim.entries) :
    member lim a key (layout.colon ++ (v.toList layout level ++ rest)) = .ok (b, rest) := by
  obtain ⟨ws, hcolon, hws⟩ := hl.colon
  have hexpect : expectColon (layout.colon ++ (v.toList layout level ++ rest)) = .ok (ws ++ v.toList layout level ++ rest) := by
    rw [hcolon]
    simp [expectColon, Json.skipSpace, isSpace]
  refine h lim _ _ rest hexpect ⟨⟨layout, level, ws, hl, hws, rfl⟩, hrest, hdepth, ?_⟩
  rw [hcolon] at hshort
  simp only [List.length_append, List.length_cons] at hshort ⊢
  omega

/-- The members after the first are read one after another. -/
theorem readMembers_objectRest {member : Limits → σ → String → List Char → Scan σ} {ms : Members} {a b : σ} {lim : Limits}
    (hl : layout.Spaced) (h : Chain member ms a b) (hdepth : ∀ m ∈ ms, m.2.depth ≤ lim.depth) {n : Nat} (hlim : n ≤ lim.entries)
    (hn : (objectRest layout level outer ms rest).length < n) :
    readMembers (member lim) n false a (objectRest layout level outer ms rest) = .ok (b, '}' :: rest) := by
  induction h generalizing n with
  | nil a =>
    obtain ⟨n, rfl⟩ : ∃ m, n = m + 1 := ⟨n - 1, by omega⟩
    simp [objectRest_nil, readMembers, nextKey, skipSpace_append (hl.indent outer) (rfl : isSpace '}' = false)]
  | @cons key v ms a b c hfeeds _ ih =>
    obtain ⟨n, rfl⟩ : ∃ m, n = m + 1 := ⟨n - 1, by omega⟩
    rw [objectRest_cons] at hn ⊢
    simp only [List.length_cons, List.length_append] at hn
    have hends : Ends (objectRest layout level outer ms rest) := ends_objectRest hl ms
    have hread := hfeeds.read hl level hends (hdepth (key, v) (by simp)) (by
      simp only [List.length_append]
      omega)
    have hrest := ih (fun m hm => hdepth m (by simp [hm])) (n := n) (by omega) (by omega)
    rw [readMembers, nextKey_next (hl.indent level)]
    simp only [scanString_escape, String.ofList_toList, hread, hrest]

/-- An object that is written is a bracket, then text of which every reader that its members feed makes what they make of it. -/
theorem Written.object {member : Limits → σ → String → List Char → Scan σ} {ms : Members} {a b : σ} {lim : Limits}
    {cs : List Char} (h : Written (.object ms) lim cs rest) (hchain : Chain member ms a b) :
    ∃ d body, lim.depth = d + 1 ∧ skipSpace cs = '{' :: body ∧
      readMembers (member ⟨lim.entries, d⟩) lim.entries true a body = .ok (b, '}' :: rest) := by
  have hobject := h.shallow
  rw [Value.depth] at hobject
  obtain ⟨d, hd⟩ : ∃ d, lim.depth = d + 1 := ⟨lim.depth - 1, by omega⟩
  have hdepth : ∀ m ∈ ms, m.2.depth ≤ d := by
    intro m hm
    have hmember := Value.depth_le_membersDepth hm
    omega
  obtain ⟨layout, level, hl, hskip⟩ := h.skipSpace_eq
  have hshort := h.length_skipSpace_lt
  obtain ⟨n, hn⟩ : ∃ n, lim.entries = n + 1 := ⟨lim.entries - 1, by omega⟩
  rw [hn] at hshort ⊢
  cases hchain with
  | nil a => exact ⟨d, '}' :: rest, hd, hskip, rfl⟩
  | @cons key v ms _ m _ hfeeds hms =>
    have hbody : skipSpace cs = '{' :: (layout.indent (level + 1) ++ (stringToList key ++ (layout.colon ++
        (v.toList layout (level + 1) ++ objectRest layout (level + 1) level ms rest)))) := by
      rw [hskip]
      simp [Value.toList, objectRest]
    rw [hbody] at hshort
    simp only [List.length_append, List.length_cons] at hshort
    refine ⟨d, _, hd, hbody, ?_⟩
    have hends : Ends (objectRest layout (level + 1) level ms rest) := ends_objectRest hl ms
    have hroom : v.depth ≤ (⟨n + 1, d⟩ : Limits).depth := hdepth (key, v) (by simp)
    have hread := hfeeds.read hl (level + 1) hends hroom (by
      simp only [List.length_append]
      omega)
    have hrest : readMembers (member ⟨n + 1, d⟩) n false m (objectRest layout (level + 1) level ms rest) = .ok (b, '}' :: rest) :=
      readMembers_objectRest hl hms (fun m hm => hdepth m (by simp [hm])) (Nat.le_succ n) (by omega)
    rw [readMembers, nextKey_first (hl.indent (level + 1))]
    simp only [scanString_escape, String.ofList_toList, hread, hrest]

end Objects

end Webform.Json
