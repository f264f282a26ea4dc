import Mathlib.Data.List.TakeWhile
import Webform.Proofs.Json.Members
import Webform.Proofs.Json.Written

/-!
# Codecs that restore what they write

A codec restores a value when it reads what it writes for it, in any layout and before any text (`Codec.Restores`). The codecs
of single values, of lists and of records do; for a record the members are followed one by one (`Rebuilds`), and no two of them
share a key.
-/

namespace Webform.Json

/-! ## Free values -/

/-- The values that a text keeps: their numbers are integers of 64 bits, and no two members of an object share a key. -/
inductive Value.Exact : Value → Prop where
  | null : Exact .null
  | bool (b : Bool) : Exact (.bool b)
  | integer {i : Int} : Number.Fits i → Exact (.number (.integer i))
  | string (s : String) : Exact (.string s)
  | array {vs : List Value} : (∀ v ∈ vs, Exact v) → Exact (.array vs)
  | object {ms : Members} : (ms.map (·.1)).Nodup → (∀ m ∈ ms, Exact m.2) → Exact (.object ms)

/-- Members are read one after another into the object that they make with what was read before. -/
theorem chain_readFreeMember {ms : Members} (hreads : ∀ m ∈ ms, Reads readValue m.2 m.2) (acc : Object) :
    Chain (fun lim => readFreeMember (readValue lim)) ms acc (ms.foldl (fun o m => o.insert m.1 m.2) acc) := by
  induction ms generalizing acc with
  | nil => exact .nil acc
  | cons m ms ih =>
    refine .cons (fun lim cs t rest hcolon hwritten => ?_) (ih (fun m hm => hreads m (by simp [hm])) (acc.insert m.1 m.2))
    rw [readFreeMember, hcolon]
    simp only [hreads m (by simp) lim t rest hwritten]

/-- The members of a written object, of which a key may be repeated, are read up to the end of it. -/
theorem Written.freeObject {ms : Members} {lim : Limits} {cs rest : List Char} (h : Written (.object ms) lim cs rest)
    (hreads : ∀ m ∈ ms, Reads readValue m.2 m.2) :
    ∃ d body, lim.depth = d + 1 ∧ skipSpace cs = '{' :: body ∧
      readFreeObject (readValueWithin lim.entries d) lim.entries body = .ok (.ofPairs ms, rest) := by
  obtain ⟨d, body, hd, hskip, hread⟩ := h.object (chain_readFreeMember hreads {})
  have hread' : readMembers (readFreeMember (readValueWithin lim.entries d)) lim.entries true {} body =
      .ok (.ofPairs ms, '}' :: rest) := hread
  refine ⟨d, body, hd, hskip, ?_⟩
  rw [readFreeObject, hread']
  rfl

/-- Every exact value is read back as it is. -/
theorem reads_value {v : Value} (h : v.Exact) : Reads readValue v v := by
  induction h with
  | null =>
    intro lim cs rest hw
    obtain ⟨_, _, -, hskip⟩ := hw.skipSpace_eq
    rw [readValue, readValueWithin, hskip]
    rfl
  | bool b =>
    intro lim cs rest hw
    obtain ⟨_, _, -, hskip⟩ := hw.skipSpace_eq
    rw [readValue, readValueWithin, hskip]
    cases b <;> rfl
  | @integer i hi =>
    intro lim cs rest hw
    obtain ⟨_, _, -, hskip⟩ := hw.skipSpace_eq
    rw [readValue, readValueWithin, hskip, Value.toList, Number.toList]
    rcases scanNumber_integerToList hi hw.ends with ⟨t, htext, hscan⟩ | ⟨c, t, htext, hc, hscan⟩
    · rw [htext, List.cons_append]
      simp only [hscan, Scan.as]
    · have hne := fun d (hd : isDigit d = false) => ne_of_isDigit hc hd
      rw [htext, List.cons_append]
      rw [List.cons_append] at hscan
      simp [hne 'n' (by decide), hne 't' (by decide), hne 'f' (by decide), hne '"' (by decide), hne '-' (by decide),
        hne '[' (by decide), hne '{' (by decide), hc, hscan, Scan.as]
  | string s =>
    intro lim cs rest hw
    obtain ⟨_, _, -, hskip⟩ := hw.skipSpace_eq
    rw [readValue, readValueWithin, hskip, Value.toList, stringToList_append]
    simp only [scanString_escape, Scan.as, String.ofList_toList]
  | @array vs _ ih =>
    intro lim cs rest hw
    rw [← List.map_id vs] at hw
    obtain ⟨d, body, hd, hskip, hread⟩ := hw.array ih
    rw [readValue, readValueWithin, hskip, hd]
    have hread' : readElements (readValueWithin lim.entries d) lim.entries true body = .ok (vs.map id, rest) := hread
    simp only [hread', Scan.as, List.map_id]
  | object hkeys _ ih =>
    intro lim cs rest hw
    obtain ⟨d, body, hd, hskip, hread⟩ := hw.freeObject ih
    rw [Object.ofPairs_eq_mk hkeys] at hread
    rw [readValue, readValueWithin, hskip, hd]
    simp only [hread, Scan.as]

/-! ## Codecs of single values -/

namespace Codec

/-- What the codec writes for `a` is read back as `b`. -/
def Restores {α : Type} (c : Codec α) (a b : α) : Prop := Reads c.read (c.write a) b

theorem readString_written {expected s : String} {lim : Limits} {cs rest : List Char} (h : Written (.string s) lim cs rest) :
    readString expected cs = .ok (s, rest) := by
  obtain ⟨_, _, -, hskip⟩ := h.skipSpace_eq
  rw [readString, hskip, Value.toList, stringToList_append]
  simp only [scanString_escape, Scan.as, String.ofList_toList]

theorem restores_text (s : String) : text.Restores s s := fun _ _ _ h => readString_written h

theorem restores_bool (b : Bool) : bool.Restores b b := by
  intro lim cs rest h
  obtain ⟨_, _, -, hskip⟩ := h.skipSpace_eq
  simp only [bool, hskip]
  cases b <;> rfl

theorem restores_identifier (i : Identifier) : identifier.Restores i i := by
  intro lim cs rest h
  have hstring : readString "a formatted UUID string" cs = .ok (i.toString, rest) := readString_written h
  simp only [identifier, hstring, i.read_toString]

/-- An integer within the bounds of a type is read back. -/
theorem readInteger_written {expected : String} {low high i : Int} {lim : Limits} {cs rest : List Char}
    (h : Written (.number (.integer i)) lim cs rest) (hi : Number.Fits i) (hbounds : low ≤ i ∧ i ≤ high) :
    readInteger expected low high cs = .ok (i, rest) := by
  obtain ⟨_, _, ws, -, hws, rfl⟩ := h.text
  rw [readInteger, Value.toList, Number.toList, readNumber_integerToList hi hws h.ends]
  exact if_pos hbounds

theorem restores_int32 (i : Int32) : int32.Restores i i := by
  intro lim cs rest h
  have hlow := i.le_toInt
  have hhigh := i.toInt_lt
  have hfits : Number.Fits i.toInt := by
    simp only [Number.Fits, Nat.pow_eq, Int.natCast_pow]
    omega
  have hread : readInteger "i32" (-(Nat.pow 2 31 : Int)) (Nat.pow 2 31 - 1 : Int) cs = .ok (i.toInt, rest) :=
    readInteger_written h hfits (by simp only [Nat.pow_eq, Int.natCast_pow]; omega)
  simp only [int32, hread, Scan.as, Int32.ofInt_toInt]

theorem restores_count (n : UInt64) : count.Restores n n := by
  intro lim cs rest h
  have hhigh := n.toNat_lt
  have hfits : Number.Fits n.toNat := by
    simp only [Number.Fits, Nat.pow_eq, Int.natCast_pow]
    omega
  have hread : readInteger "usize" 0 (Nat.pow 2 64 - 1 : Int) cs = .ok (n.toNat, rest) :=
    readInteger_written h hfits (by simp only [Nat.pow_eq, Int.natCast_pow]; omega)
  simp only [count, hread, Scan.as, Int.toNat_natCast, UInt64.ofNat_toNat]

/-- A value that may be `null` is read as `none` or as the value, which is told by its first character. -/
theorem restores_none {α : Type} (c : Codec α) : (optional c).Restores none none := by
  intro lim cs rest h
  obtain ⟨_, _, -, hskip⟩ := h.skipSpace_eq
  simp only [optional, readOptional, hskip]
  rfl

theorem reads_optional {α : Type} {r : Reader α} {v : Value} {a : α} (h : Reads r v a) (hv : v ≠ .null) :
    Reads (readOptional r) v (some a) := by
  intro lim cs rest hw
  obtain ⟨layout, level, hl, hskip⟩ := hw.skipSpace_eq
  obtain ⟨c, t, hc, hhead⟩ := v.exists_head_toList layout level
  have hread := h lim _ rest (.here hl level hw.ends hw.shallow (hskip ▸ hw.length_skipSpace_lt))
  rw [hc, List.cons_append] at hread hskip
  have hn : c ≠ 'n' := fun hn => hv (hhead.2.2 hn)
  simp [readOptional, hskip, hn, hread, Scan.as]

theorem restores_some {α : Type} {c : Codec α} {a b : α} (h : c.Restores a b) (hv : c.write a ≠ .null) :
    (optional c).Restores (some a) (some b) := reads_optional h hv

theorem restores_optional_text (s : Option String) : (optional text).Restores s s := by
  cases s with
  | none => exact restores_none text
  | some s => exact restores_some (restores_text s) (by simp [text])

theorem restores_nullableText (s : String) : nullableText.Restores s s := by
  intro lim cs rest h
  have hread := reads_optional (restores_text s) (by simp [text]) lim cs rest h
  simp only [nullableText, hread, Scan.as, Option.getD_some]

/-- A list is restored element by element. -/
theorem restores_list {α : Type} {c : Codec α} {norm : α → α} {as : List α} (h : ∀ a ∈ as, c.Restores a (norm a)) :
    (list c).Restores as (as.map norm) := by
  intro lim cs rest hw
  obtain ⟨d, body, hd, hskip, hread⟩ := Written.array hw h
  simp only [list, hskip, enter, hd]
  exact hread

/-- A case is restored when it is the first that goes by its name. -/
theorem restores_choice {α : Type} {cases : List (String × α)} {name : α → String} {a : α} {key : String}
    (h : cases.find? (fun c => c.1 = name a) = some (key, a)) : (choice cases name).Restores a a := by
  intro lim cs rest hw
  obtain ⟨_, _, -, hskip⟩ := hw.skipSpace_eq
  simp only [choice, hskip, Value.toList, stringToList_append, scanString_escape, String.ofList_toList, findCase, h]

end Codec

/-! ## Records -/

section Records

variable {R : Type}

/-- Starting with the record `x`, the members make `y` of what is written of `a`. -/
inductive Rebuilds (a : R) : List (Member R) → R → R → Prop where
  | nil (x : R) : Rebuilds a [] x x
  | written {m : Member R} {ms : List (Member R)} {v : Value} {x y z : R} :
      m.write a = some v → Reads (m.read x) v y → Rebuilds a ms y z → Rebuilds a (m :: ms) x z
  | absent {m : Member R} {ms : List (Member R)} {x z : R} :
      m.write a = none → m.required = false → Rebuilds a ms x z → Rebuilds a (m :: ms) x z

/-- A member that is kept in a part of the record puts there what its codec reads. -/
theorem Reads.member {α : Type} {c : Codec α} {set : R → α → R} {v : Value} {b : α} (h : Reads c.read v b) (key : String)
    (get : R → α) (x : R) : Reads ((Member.of key c get set).read x) v (set x b) := by
  intro lim cs rest hw
  simp only [Member.of, h lim cs rest hw, Scan.as]

/-- A member that is kept in a part of the record puts what its codec restores there. -/
theorem Rebuilds.of {α : Type} {key : String} {c : Codec α} {get : R → α} {set : R → α → R} {ms : List (Member R)} {a x z : R}
    {b : α}
    (h : c.Restores (get a) b) (hms : Rebuilds a ms (set x b) z) : Rebuilds a (.of key c get set :: ms) x z :=
  .written rfl (Reads.member h key get x) hms

theorem Rebuilds.ofRequired {α : Type} {key : String} {c : Codec α} {get : R → α} {set : R → α → R} {ms : List (Member R)}
    {a x z : R} {b : α} (h : c.Restores (get a) b) (hms : Rebuilds a ms (set x b) z) :
    Rebuilds a ({ Member.of key c get set with required := true } :: ms) x z :=
  .written rfl (Reads.member h key get x) hms

/-- What is written of the members of a record, under their keys. -/
def writtenMembers (a : R) (ms : List (Member R)) : Members := ms.filterMap fun m => (m.write a).map fun v => (m.key, v)

theorem find?_key {ms : List (Member R)} (hkeys : (ms.map (·.key)).Nodup) {m : Member R} (hm : m ∈ ms) :
    ms.find? (fun n => n.key = m.key) = some m := by
  induction ms with
  | nil => cases hm
  | cons n ms ih =>
    rw [List.map_cons, List.nodup_cons] at hkeys
    rcases List.mem_cons.1 hm with rfl | hm
    · simp
    · have hne : n.key ≠ m.key := fun h => hkeys.1 (h ▸ List.mem_map_of_mem hm)
      rw [List.find?_cons_of_neg (by simpa using hne), ih hkeys.2 hm]

/-- A member that is written feeds the record, its key being read for the first time. -/
theorem feeds_readMember {rec : Record R} {m : Member R} {v : Value} {x y : R} {keys : List String}
    (hfind : rec.members.find? (fun n => n.key = m.key) = some m) (hfresh : m.key ∉ keys) (h : Reads (m.read x) v y) :
    Feeds rec.readMember m.key v (x, keys) (y, m.key :: keys) := by
  intro lim cs t rest hcolon hw
  simp only [Record.readMember, hfind, if_neg hfresh, hcolon, h lim t rest hw, Scan.as]

/-- Reading what is written of members whose keys are new takes the record from one state to the other, and no required member is
missing among the keys read then. -/
theorem Rebuilds.chain {rec : Record R} {a x y : R} {ms : List (Member R)} (h : Rebuilds a ms x y) (keys : List String)
    (hfind : ∀ m ∈ ms, rec.members.find? (fun n => n.key = m.key) = some m) (hkeys : (ms.map (·.key)).Nodup)
    (hfresh : ∀ m ∈ ms, m.key ∉ keys) :
    ∃ keys', Chain rec.readMember (writtenMembers a ms) (x, keys) (y, keys') ∧ (∀ key ∈ keys, key ∈ keys') ∧
      ∀ m ∈ ms, m.required = true → m.key ∈ keys' := by
  induction h generalizing keys with
  | nil x => exact ⟨keys, .nil _, fun _ hk => hk, by simp⟩
  | @written m ms v x y z hwrite hreads _ ih =>
    rw [List.map_cons, List.nodup_cons] at hkeys
    obtain ⟨keys', hchain, hsub, hreq⟩ := ih (m.key :: keys) (fun n hn => hfind n (by simp [hn])) hkeys.2 (fun n hn => by
      have hne : n.key ≠ m.key := fun he => hkeys.1 (he ▸ List.mem_map_of_mem hn)
      simp [hne, hfresh n (by simp [hn])])
    refine ⟨keys', ?_, fun key hkey => hsub key (by simp [hkey]), fun n hn hn' => ?_⟩
    · have hhead : writtenMembers a (m :: ms) = (m.key, v) :: writtenMembers a ms := by simp [writtenMembers, hwrite]
      rw [hhead]
      exact .cons (feeds_readMember (hfind m (by simp)) (hfresh m (by simp)) hreads) hchain
    · rcases List.mem_cons.1 hn with rfl | hn
      · exact hsub _ (by simp)
      · exact hreq n hn hn'
  | @absent m ms x z hwrite hoptional _ ih =>
    rw [List.map_cons, List.nodup_cons] at hkeys
    obtain ⟨keys', hchain, hsub, hreq⟩ :=
      ih keys (fun n hn => hfind n (by simp [hn])) hkeys.2 (fun n hn => hfresh n (by simp [hn]))
    refine ⟨keys', ?_, hsub, fun n hn hn' => ?_⟩
    · have hhead : writtenMembers a (m :: ms) = writtenMembers a ms := by simp [writtenMembers, hwrite]
      rwa [hhead]
    · rcases List.mem_cons.1 hn with rfl | hn
      · rw [hoptional] at hn'
        cases hn'
      · exact hreq n hn hn'

/-- A record is restored as what its members rebuild from the record that absent members leave as it is. -/
theorem Rebuilds.restores {rec : Record R} {a b : R} (h : Rebuilds a rec.members rec.start b)
    (hkeys : (rec.members.map (·.key)).Nodup) : rec.codec.Restores a b := by
  intro lim cs rest hw
  obtain ⟨keys, hchain, -, hreq⟩ := h.chain [] (fun m hm => find?_key hkeys hm) hkeys (by simp)
  obtain ⟨d, body, hd, hskip, hread⟩ := Written.object hw hchain
  have hmissing : rec.members.find? (fun m => m.required && !keys.contains m.key) = none := by
    rw [List.find?_eq_none]
    intro m hm
    cases hrequired : m.required with
    | false => simp
    | true => simp [hreq m hm hrequired]
  simp only [Record.codec, hskip, enter, hd, Record.readObject, hread, hmissing]
  rfl

end Records

/-! ## Texts -/

/-- The text of a value is read as its reader reads the value, within the limit on brackets; blanks may follow it. -/
theorem Reads.readText_append {α : Type} {r : Reader α} {v : Value} {a : α} (h : Reads r v a) (hdepth : v.depth ≤ 127)
    {layout : Layout} (hl : layout.Spaced) {ws : List Char} (hws : ∀ c ∈ ws, isSpace c = true) :
    Json.readText r (.ofList (v.toList layout 0 ++ ws)) = .ok a := by
  have hends : Ends ws := by
    have h := Ends.append hws .nil
    rwa [List.append_nil] at h
  have hw : Written v (.forText (v.toList layout 0 ++ ws)) (v.toList layout 0 ++ ws) ws :=
    ⟨⟨layout, 0, [], hl, by simp, by simp⟩, hends, hdepth, Nat.lt_succ_self _⟩
  have hskip : skipSpace ws = [] := List.dropWhile_eq_nil_iff.2 hws
  simp only [Json.readText, String.toList_ofList, h _ _ _ hw, hskip]

/-- The text of a value is read as its reader reads the value, within the limit on brackets. -/
theorem Reads.readText {α : Type} {r : Reader α} {v : Value} {a : α} (h : Reads r v a) (hdepth : v.depth ≤ 127)
    {layout : Layout} (hl : layout.Spaced) : Json.readText r (.ofList (v.toList layout 0)) = .ok a := by
  have hread := h.readText_append hdepth hl (List.forall_mem_nil (isSpace · = true))
  rwa [List.append_nil] at hread

/-- The text of a value is read back as what its codec restores. -/
theorem Codec.Restores.ofText {α : Type} {c : Codec α} {a b : α} (h : c.Restores a b) (hdepth : (c.write a).depth ≤ 127)
    {layout : Layout} (hl : layout.Spaced) : c.ofText (.ofList ((c.write a).toList layout 0)) = .ok b :=
  Reads.readText h hdepth hl

end Webform.Json
