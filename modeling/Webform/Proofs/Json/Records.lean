import Mathlib.Data.List.Pairwise
import Webform.Proofs.Json.Codecs
import Webform.Proofs.Json.Local

/-!
# Records as sets of members

What a record's codec makes of an object is what its entries make, one after another, of the record at the start
(`Record.Lawful.gives_object_iff`): an entry with the key of a member sets a part of the record, and one with another key changes
nothing. Where the members of the record set parts of it that are independent of one another, the order of the entries is of no
account (`Record.Lawful.makes_perm`).
-/

namespace Webform.Json

section Records

variable {R : Type} {rec : Record R} {d : Nat}

/-! ## Independent members -/

/-- Two members may be set in either order. -/
def Member.Independent (m n : Member R) : Prop :=
  ∀ d v w a c, (∃ b, Gives (m.read a) d v b ∧ Gives (n.read b) d w c) ↔ ∃ b, Gives (n.read a) d w b ∧ Gives (m.read b) d v c

instance : Std.Symm (Member.Independent (R := R)) := ⟨fun _ _ h d v w a c => (h d w v a c).symm⟩

/-- A member that is kept in a part of the record is read from a single value. -/
theorem Member.local_of {α : Type} {key : String} {c : Codec α} {get : R → α} {set : R → α → R} (h : Local c.read) (a : R) :
    Local ((Member.of key c get set).read a) := h.as (set a)

/-- Members that are kept in different parts of the record are independent. -/
theorem Member.independent_of {α β : Type} {key key' : String} {c : Codec α} {c' : Codec β} {get : R → α} {get' : R → β}
    {set : R → α → R} {set' : R → β → R} (h : ∀ a x y, set' (set a x) y = set (set' a y) x) :
    (Member.of key c get set).Independent (.of key' c' get' set') := by
  intro d v w a b
  simp only [Member.of, Gives, Scan.as_eq_ok_iff]
  constructor
  · rintro ⟨_, ⟨x, hx, rfl⟩, y, hy, rfl⟩
    exact ⟨_, ⟨y, hy, rfl⟩, x, hx, (h a x y).symm⟩
  · rintro ⟨_, ⟨y, hy, rfl⟩, x, hx, rfl⟩
    exact ⟨_, ⟨x, hx, rfl⟩, y, hy, h a x y⟩

namespace Record

/-- The keys of the members. -/
def keys (rec : Record R) : List String := rec.members.map (·.key)

/-- The member with a key. -/
def member? (rec : Record R) (key : String) : Option (Member R) := rec.members.find? fun m => m.key = key

theorem mem_of_member?_eq_some {key : String} {m : Member R} (h : rec.member? key = some m) : m ∈ rec.members ∧ m.key = key :=
  ⟨List.mem_of_find?_eq_some h, by simpa using List.find?_some h⟩

theorem member?_eq_none_iff {key : String} : rec.member? key = none ↔ key ∉ rec.keys := by simp [member?, keys]

/-! ## What entries do -/

/-- What an entry with a key does to the record. -/
def Sets (rec : Record R) (d : Nat) (e : EntryText) (key : String) (a b : R) : Prop :=
  match rec.member? key with
  | none => a = b
  | some m => Gives (m.read a) d e.value b

/-- What an entry with a key does to the record and the keys read so far: the key of a member may not be repeated. -/
def SetsOnce (rec : Record R) (d : Nat) (e : EntryText) (key : String) (x y : R × List String) : Prop :=
  match rec.member? key with
  | none => x = y
  | some m => key ∉ x.2 ∧ ∃ b, Gives (m.read x.1) d e.value b ∧ (b, key :: x.2) = y

/-- Two entries have no key of a member in common. -/
def Apart (rec : Record R) (e f : EntryText) : Prop := ∀ key ∈ rec.keys, e.Names key → ¬f.Names key

/-- The entries make this of the record at the start, each key of a member being read once. -/
def Makes (rec : Record R) (d : Nat) (es : List EntryText) (a : R) : Prop :=
  Leads (rec.Sets d) es rec.start a ∧ es.Pairwise rec.Apart

theorem apart_comm {e f : EntryText} : rec.Apart e f ↔ rec.Apart f e :=
  ⟨fun h key hkey hf he => h key hkey he hf, fun h key hkey he hf => h key hkey hf he⟩

/-- What an entry with a key has to do with another is told by its key. -/
theorem apart_iff_of_names {e f : EntryText} {key : String} (hname : e.Names key) :
    rec.Apart e f ↔ (key ∈ rec.keys → ¬f.Names key) := by
  refine ⟨fun h hkey => h key hkey hname, fun h key' hkey hname' => ?_⟩
  obtain rfl := hname'.eq hname
  exact h hkey

theorem takesMember_readMember (hlocal : ∀ m ∈ rec.members, ∀ a, Local (m.read a)) {e : EntryText} (hbefore : IsBlank e.before)
    (hv : IsValue e.value) : TakesMember rec.readMember d e (rec.SetsOnce d e) := by
  intro gap tail n hgap htail hn key x y rest
  simp only [readMember, SetsOnce, hgap.expectColon]
  rw [← member?]
  cases hm : rec.member? key with
  | none =>
    have hskip := skipValue_append hv hbefore htail ⟨n, d⟩ hn
    simp [hskip, yielding_eq_ok_iff, @eq_comm _ rest, and_comm]
  | some m =>
    have hread := hlocal m (mem_of_member?_eq_some hm).1 x.1 hv hbefore htail hn (d := d)
    by_cases hkey : key ∈ x.2
    · simp [hkey]
    · dsimp only
      rw [if_neg hkey, Scan.as_eq_ok_iff_of hread, and_iff_right hkey]

/-- The keys that have been read after one more: those that are no member's are forgotten. -/
def remember (rec : Record R) (key : String) (seen : List String) : List String := if key ∈ rec.keys then key :: seen else seen

theorem mem_remember_iff {key key' : String} {seen : List String} :
    key' ∈ rec.remember key seen ↔ key' ∈ seen ∨ key' = key ∧ key ∈ rec.keys := by
  unfold remember
  split <;> simp [or_comm, *]

/-- What an entry does when keys have been read: it sets the record as it would without, unless its key is repeated. -/
theorem setsOnce_iff {e : EntryText} {key : String} {a b : R} {seen seen' : List String} :
    rec.SetsOnce d e key (a, seen) (b, seen') ↔
      rec.Sets d e key a b ∧ (key ∈ rec.keys → key ∉ seen) ∧ rec.remember key seen = seen' := by
  unfold SetsOnce Sets remember
  cases hm : rec.member? key with
  | none => simp [member?_eq_none_iff.1 hm]
  | some m =>
    have hkey : key ∈ rec.keys := by
      by_contra hkey
      rw [member?_eq_none_iff.2 hkey] at hm
      cases hm
    simp only [hkey, if_true, true_imp_iff, Prod.mk.injEq]
    constructor
    · rintro ⟨hnew, _, hgives, rfl, rfl⟩
      exact ⟨hgives, hnew, rfl⟩
    · rintro ⟨hgives, hnew, rfl⟩
      exact ⟨hnew, b, hgives, rfl, rfl⟩

/-- The keys read so far refuse the key of a member that is repeated. -/
theorem leads_setsOnce_iff {es : List EntryText} {a b : R} {seen : List String} (hseen : ∀ key ∈ seen, key ∈ rec.keys) :
    (∃ keys, Leads (rec.SetsOnce d) es (a, seen) (b, keys)) ↔
      Leads (rec.Sets d) es a b ∧ es.Pairwise rec.Apart ∧ ∀ e ∈ es, ∀ key ∈ seen, ¬e.Names key := by
  induction es generalizing a seen with
  | nil =>
    constructor
    · rintro ⟨keys, ⟨⟩⟩
      exact ⟨.nil _, .nil, by simp⟩
    · rintro ⟨⟨⟩, -, -⟩
      exact ⟨seen, .nil _⟩
  | cons e es ih =>
    have hremember (key : String) : ∀ key' ∈ rec.remember key seen, key' ∈ rec.keys := by
      intro key' hkey'
      obtain hkey' | ⟨rfl, hkey⟩ := mem_remember_iff.1 hkey'
      · exact hseen key' hkey'
      · exact hkey
    constructor
    · rintro ⟨keys, _ | @⟨_, _, key, _, ⟨x, _⟩, _, hname, honce, hes⟩⟩
      obtain ⟨hset, hnew, rfl⟩ := setsOnce_iff.1 honce
      obtain ⟨hleads, hapart, hfresh⟩ := (ih (hremember key)).1 ⟨keys, hes⟩
      refine ⟨.cons hname hset hleads, .cons (fun f hf => ?_) hapart, List.forall_mem_cons.2 ⟨fun key' hkey' hname' => ?_, ?_⟩⟩
      · exact (apart_iff_of_names hname).2 fun hkey => hfresh f hf key (mem_remember_iff.2 (.inr ⟨rfl, hkey⟩))
      · obtain rfl := hname'.eq hname
        exact hnew (hseen key' hkey') hkey'
      · exact fun f hf key' hkey' => hfresh f hf key' (mem_remember_iff.2 (.inl hkey'))
    · rintro ⟨_ | @⟨_, _, key, _, x, _, hname, hset, hes⟩, hapart, hfresh⟩
      obtain ⟨hfirst, hapart⟩ := List.pairwise_cons.1 hapart
      obtain ⟨hnew, hfresh⟩ := List.forall_mem_cons.1 hfresh
      have hfresh' : ∀ f ∈ es, ∀ key' ∈ rec.remember key seen, ¬f.Names key' := by
        intro f hf key' hkey'
        obtain hkey' | ⟨rfl, hkey⟩ := mem_remember_iff.1 hkey'
        · exact hfresh f hf key' hkey'
        · exact hfirst f hf key' hkey hname
      obtain ⟨keys, hleads⟩ := (ih (hremember key)).2 ⟨hes, hapart, hfresh'⟩
      exact ⟨keys, .cons hname (setsOnce_iff.2 ⟨hset, fun _ hkey => hnew key hkey hname, rfl⟩) hleads⟩

/-! ## Objects -/

/-- An object is closed after its last member, none of which is required. -/
theorem readObject_around (hlocal : ∀ m ∈ rec.members, ∀ a, Local (m.read a)) (hoptional : ∀ m ∈ rec.members, m.required = false)
    {gap : List Char} {es : List EntryText} (hgap : IsBlank gap) (hfits : ∀ e ∈ es, e.Fits .object)
    (hvalues : ∀ e ∈ es, IsValue e.value) {t tail : List Char} (ht : Bracket.object.around gap es ++ tail = '\x7b' :: t) {N : Nat}
    (hN : t.length < N) (a : R) (rest : List Char) :
    rec.readObject ⟨N, d⟩ t = .ok (a, rest) ↔ rec.Makes d es a ∧ rest = tail := by
  have hmembers := readMembers_around hgap hfits
    (fun e he => takesMember_readMember hlocal (d := d) (hfits e he).before (hvalues e he)) ht hN (rec.start, [])
  have honce (a : R) : (∃ keys, Leads (rec.SetsOnce d) es (rec.start, []) (a, keys)) ↔ rec.Makes d es a := by
    rw [leads_setsOnce_iff (by simp), Makes]
    simp
  have hclose : closeObject ('\x7d' :: tail) = .ok tail := rfl
  have hmissing (keys : List String) : rec.members.find? (fun m => m.required && !keys.contains m.key) = none := by
    rw [List.find?_eq_none]
    intro m hm
    simp [hoptional m hm]
  rw [readObject, ← honce]
  obtain ⟨err, hread, hnone⟩ | ⟨⟨b, keys⟩, hread, hone⟩ := Scan.error_or_ok hmembers
  · simp [hread, hnone]
  · simp only [hread, hmissing]
    simp [hone, hclose, yielding, @eq_comm _ a, @eq_comm _ rest]

/-! ## Arrays -/

/-- What the elements of an array do to the record, the first being that of the first member. -/
def Fills (d : Nat) : List (Member R) → List EntryText → R → R → Prop
  | _, [], a, b => a = b
  | [], _ :: _, _, _ => False
  | m :: ms, e :: es, a, c => ∃ b, Gives (m.read a) d e.value b ∧ Fills d ms es b c

theorem readPlaces_of_end {lim : Limits} {ms : List (Member R)} (hoptional : ∀ m ∈ ms, m.required = false) {place : Nat}
    {first : Bool} {a : R} {cs tail : List Char} (h : skipSpace cs = ']' :: tail) :
    rec.readPlaces lim ms place first a cs = .ok (a, tail) := by
  induction ms generalizing place cs with
  | nil =>
    rw [readPlaces, closeList, h]
    rfl
  | cons m ms ih =>
    obtain ⟨hm, hms⟩ := List.forall_mem_cons.1 hoptional
    rw [readPlaces, nextElement, h]
    simp only [hm, Bool.false_eq_true, if_false]
    exact ih hms rfl

theorem closeList_ne_ok {c : Char} {cs t rest : List Char} (h : skipSpace cs = c :: t) (hc : c ≠ ']') :
    closeList cs ≠ .ok rest := by
  rw [closeList, h]
  split
  · exact error_ne_ok
  · rename_i heq
    exact absurd (List.cons.inj heq).1 hc
  · split <;> exact error_ne_ok
  · exact error_ne_ok

/-- An array has no element without a member. -/
theorem readPlaces_of_next {lim : Limits} {place : Nat} {first : Bool} {a b : R} {c : Char} {cs t rest : List Char}
    (h : skipSpace cs = c :: t) (hc : c ≠ ']') : rec.readPlaces lim [] place first a cs ≠ .ok (b, rest) := by
  rw [readPlaces, Ne, yielding_eq_ok_iff]
  exact fun hread => closeList_ne_ok h hc hread.1

/-- The element of the first member, once it has been found. -/
theorem readPlaces_iff_of_next {m : Member R} {ms : List (Member R)} {e : EntryText} {es : List EntryText} {N place : Nat}
    {first : Bool} {a c : R} {cs t rest tail : List Char} (hlocal : Local (m.read a)) (hv : IsValue e.value)
    (hafter : IsBlank e.after) (hN : (e.value ++ EntryText.rest .list e.after es tail).length < N)
    (hnext : nextElement first cs = .ok (some (e.value ++ EntryText.rest .list e.after es tail), t))
    (hrest : ∀ b, rec.readPlaces ⟨N, d⟩ ms (place + 1) false b (EntryText.rest .list e.after es tail) = .ok (c, rest) ↔
      Fills d ms es b c ∧ rest = tail) :
    rec.readPlaces ⟨N, d⟩ (m :: ms) place first a cs = .ok (c, rest) ↔ Fills d (m :: ms) (e :: es) a c ∧ rest = tail := by
  have hread := hlocal hv .nil (EntryText.ends_rest hafter es tail) hN (d := d)
  rw [List.nil_append] at hread
  rw [readPlaces, hnext]
  obtain ⟨err, hm, hnone⟩ | ⟨b, hm, hone⟩ := Scan.error_or_ok hread
  · simp [hm, hnone, Fills]
  · simp [hm, hone, hrest, Fills]

theorem readPlaces_rest {ms : List (Member R)} (hlocal : ∀ m ∈ ms, ∀ a, Local (m.read a))
    (hoptional : ∀ m ∈ ms, m.required = false) {es : List EntryText} (hfits : ∀ e ∈ es, e.Fits .list)
    (hvalues : ∀ e ∈ es, IsValue e.value) {after tail : List Char} (hafter : IsBlank after) {N : Nat}
    (hN : (EntryText.rest .list after es tail).length < N) (place : Nat) (a b : R) (rest : List Char) :
    rec.readPlaces ⟨N, d⟩ ms place false a (EntryText.rest .list after es tail) = .ok (b, rest) ↔
      Fills d ms es a b ∧ rest = tail := by
  induction es generalizing ms after place a with
  | nil =>
    rw [readPlaces_of_end hoptional (EntryText.skipSpace_rest_nil hafter tail)]
    simp [Fills, @eq_comm _ rest]
  | cons e es ih =>
    obtain ⟨he, hfits⟩ := List.forall_mem_cons.1 hfits
    obtain ⟨hv, hvalues⟩ := List.forall_mem_cons.1 hvalues
    cases ms with
    | nil => exact iff_of_false (readPlaces_of_next (EntryText.skipSpace_rest_cons hafter e es tail) (by decide)) (by simp [Fills])
    | cons m ms =>
      obtain ⟨hm, hlocal⟩ := List.forall_mem_cons.1 hlocal
      have hlength : (e.value ++ EntryText.rest .list e.after es tail).length < N ∧
          (EntryText.rest .list e.after es tail).length < N := by
        simp only [EntryText.rest, EntryText.more, EntryText.toList, List.flatMap_cons, List.length_append, List.length_cons] at hN ⊢
        omega
      exact readPlaces_iff_of_next (hm a) hv he.after hlength.1 (nextElement_rest he hv hafter tail)
        fun b => ih hlocal (List.forall_mem_cons.1 hoptional).2 hfits hvalues he.after hlength.2 (place + 1) b

/-- The elements of an array after its opening bracket, each read as its member. -/
theorem readPlaces_around {ms : List (Member R)} (hlocal : ∀ m ∈ ms, ∀ a, Local (m.read a))
    (hoptional : ∀ m ∈ ms, m.required = false) {gap : List Char} {es : List EntryText} (hgap : IsBlank gap)
    (hfits : ∀ e ∈ es, e.Fits .list) (hvalues : ∀ e ∈ es, IsValue e.value) {t tail : List Char}
    (ht : Bracket.list.around gap es ++ tail = '[' :: t) {N : Nat} (hN : t.length < N) (a b : R) (rest : List Char) :
    rec.readPlaces ⟨N, d⟩ ms 0 true a t = .ok (b, rest) ↔ Fills d ms es a b ∧ rest = tail := by
  cases es with
  | nil =>
    rw [EntryText.around_nil_append] at ht
    obtain ⟨-, rfl⟩ := List.cons.inj ht
    have hend : skipSpace (gap ++ Bracket.list.closing :: tail) = ']' :: tail :=
      Json.skipSpace_append hgap Bracket.list.isSpace_closing
    rw [readPlaces_of_end hoptional hend]
    simp [Fills, @eq_comm _ rest]
  | cons e es =>
    rw [EntryText.around_append] at ht
    obtain ⟨-, rfl⟩ := List.cons.inj ht
    obtain ⟨he, hfits⟩ := List.forall_mem_cons.1 hfits
    obtain ⟨hv, hvalues⟩ := List.forall_mem_cons.1 hvalues
    obtain ⟨c, u, hcu, -, hclose, -⟩ := hv.exists_head
    cases ms with
    | nil =>
      have hkey : e.key = [] := he.key
      have hskip := hv.skipSpace_append (hgap.append he.before) (EntryText.rest .list e.after es tail)
      rw [hcu, List.append_assoc, List.cons_append] at hskip
      rw [hcu, hkey, List.nil_append, List.cons_append]
      exact iff_of_false (readPlaces_of_next hskip hclose) (by simp [Fills])
    | cons m ms =>
      obtain ⟨hm, hlocal⟩ := List.forall_mem_cons.1 hlocal
      have hlength : (e.value ++ EntryText.rest .list e.after es tail).length < N ∧
          (EntryText.rest .list e.after es tail).length < N := by
        simp only [List.length_append] at hN ⊢
        omega
      exact readPlaces_iff_of_next (hm a) hv he.after hlength.1 (nextElement_value he hv hgap _)
        fun x => readPlaces_rest hlocal (List.forall_mem_cons.1 hoptional).2 hfits hvalues he.after hlength.2 1 x b rest

/-! ## Values -/

/-- A record whose members set parts of it that are independent of one another; none is required, and each is read from a single
value. -/
structure Lawful (rec : Record R) : Prop where
  optional : ∀ m ∈ rec.members, m.required = false
  isLocal : ∀ m ∈ rec.members, ∀ a, Local (m.read a)
  independent : rec.members.Pairwise Member.Independent

namespace Lawful

variable (h : rec.Lawful)

include h

/-- An object is read as what its entries make of the record at the start. -/
theorem takes_object {gap : List Char} {es : List EntryText} (hgap : IsBlank gap) (hfits : ∀ e ∈ es, e.Fits .object)
    (hvalues : ∀ e ∈ es, IsValue e.value) : Takes rec.codec.read (d + 1) (Bracket.object.around gap es) (rec.Makes d es) := by
  intro ws tail n hws _ hn a rest
  have hskip := (IsValue.entries .object hgap hfits hvalues).skipSpace_append hws tail
  obtain ⟨t, htext, hlength⟩ := Bracket.object.exists_around_eq hn
  simp only [codec]
  rw [hskip, htext]
  exact readObject_around h.isLocal h.optional hgap hfits hvalues htext hlength a rest

theorem local_codec : Local rec.codec.read := by
  refine .of_takes fun d v hv => ?_
  have hskip {ws : List Char} (hws : IsBlank ws) (tail : List Char) := hv.skipSpace_append hws tail
  by_cases hform : ∃ b : Bracket, b.Encloses v
  · obtain ⟨b, gap, es, hgap, hfits, hvalues, rfl⟩ := hform
    cases d with
    | zero =>
      refine ⟨_, takes_false fun n ws tail hws x => ?_⟩
      simp only [codec, hskip hws]
      cases b <;> exact error_ne_ok
    | succ d =>
      cases b with
      | list =>
        refine ⟨Fills d rec.members es rec.start, fun ws tail n hws _ hn a rest => ?_⟩
        obtain ⟨t, htext, hlength⟩ := Bracket.list.exists_around_eq hn
        simp only [codec]
        rw [hskip hws, htext]
        exact readPlaces_around h.isLocal h.optional hgap hfits hvalues htext hlength rec.start a rest
      | object => exact ⟨_, h.takes_object hgap hfits hvalues⟩
  · refine ⟨_, takes_false fun n ws tail hws x => ?_⟩
    simp only [codec, hskip hws]
    split
    · rename_i hopen
      exact absurd ⟨.list, hv.of_opening (b := .list) hopen⟩ hform
    · rename_i hopen
      exact absurd ⟨.object, hv.of_opening (b := .object) hopen⟩ hform
    · exact error_ne_ok

/-- What is made of an object. -/
theorem gives_object_iff {gap : List Char} {es : List EntryText} (hgap : IsBlank gap) (hfits : ∀ e ∈ es, e.Fits .object)
    (hvalues : ∀ e ∈ es, IsValue e.value) (a : R) :
    Gives rec.codec.read (d + 1) (Bracket.object.around gap es) a ↔ rec.Makes d es a :=
  (h.takes_object hgap hfits hvalues).gives_iff a

/-! ## The order of the entries -/

/-- Two entries without a common key of a member may stand in either order. -/
theorem sets_comm {e f : EntryText} {key key' : String} (hapart : rec.Apart e f) (he : e.Names key) (hf : f.Names key')
    {a b c : R} (hab : rec.Sets d e key a b) (hbc : rec.Sets d f key' b c) :
    ∃ b, rec.Sets d f key' a b ∧ rec.Sets d e key b c := by
  unfold Sets at *
  cases hm : rec.member? key with
  | none =>
    rw [hm] at hab
    obtain rfl : a = b := hab
    exact ⟨c, hbc, rfl⟩
  | some m =>
    rw [hm] at hab
    cases hn : rec.member? key' with
    | none =>
      rw [hn] at hbc
      obtain rfl : b = c := hbc
      exact ⟨a, rfl, hab⟩
    | some n =>
      rw [hn] at hbc
      obtain ⟨hmem, rfl⟩ := mem_of_member?_eq_some hm
      obtain ⟨hmem', rfl⟩ := mem_of_member?_eq_some hn
      have hne : m ≠ n := by
        rintro rfl
        exact hapart m.key (List.mem_map_of_mem hmem) he hf
      have hindependent := h.independent.forall hmem hmem' hne
      exact (hindependent d e.value f.value a c).1 ⟨b, hab, hbc⟩

/-- The entries lead to the same record in any order. -/
theorem leads_perm {es fs : List EntryText} (hperm : es.Perm fs) (hapart : es.Pairwise rec.Apart) {a b : R}
    (hleads : Leads (rec.Sets d) es a b) : Leads (rec.Sets d) fs a b := by
  induction hperm generalizing a with
  | nil => exact hleads
  | cons e _ ih =>
    cases hleads with
    | cons hname hset hes => exact .cons hname hset (ih (List.pairwise_cons.1 hapart).2 hes)
  | swap e f es =>
    obtain _ | ⟨hf, hsetf, _ | ⟨he, hsete, hes⟩⟩ := hleads
    have hfe := (List.pairwise_cons.1 hapart).1 e (by simp)
    obtain ⟨y, hsete, hsetf⟩ := h.sets_comm hfe hf he hsetf hsete
    exact .cons he hsete (.cons hf hsetf hes)
  | trans hes _ ih ih' =>
    have hmiddle := hes.pairwise hapart fun hfg => apart_comm.1 hfg
    exact ih' hmiddle (ih hapart hleads)

/-- The entries make the same of the record in any order. -/
theorem makes_perm {es fs : List EntryText} (hperm : es.Perm fs) {a : R} (hes : rec.Makes d es a) : rec.Makes d fs a :=
  ⟨h.leads_perm hperm hes.2 hes.1, hperm.pairwise hes.2 fun hef => apart_comm.1 hef⟩

end Lawful

/-! ## Entries that may be left out -/

/-- The entry leaves the record at the start as it is. -/
def Idle (rec : Record R) (d : Nat) (e : EntryText) : Prop := ∃ key, e.Names key ∧ rec.Sets d e key rec.start rec.start

theorem sets_eq {e : EntryText} {key : String} {a b c : R} (hab : rec.Sets d e key a b) (hac : rec.Sets d e key a c) : b = c := by
  unfold Sets at *
  cases hm : rec.member? key with
  | none =>
    rw [hm] at hab hac
    exact hab.symm.trans hac
  | some m =>
    rw [hm] at hab hac
    exact hab.eq hac

theorem Idle.leads_cons_iff {e : EntryText} (he : rec.Idle d e) {es : List EntryText} {a : R} :
    Leads (rec.Sets d) (e :: es) rec.start a ↔ Leads (rec.Sets d) es rec.start a := by
  obtain ⟨key, hname, hidle⟩ := he
  constructor
  · rintro (_ | ⟨hname', hset, hes⟩)
    rw [hname'.eq hname] at hset
    rwa [sets_eq hset hidle] at hes
  · exact fun hes => .cons hname hidle hes

namespace Lawful

variable (h : rec.Lawful)

include h

/-- An idle entry may be left out. -/
theorem makes_remove {e : EntryText} (he : rec.Idle d e) {es fs : List EntryText} {a : R} (hes : rec.Makes d (es ++ e :: fs) a) :
    rec.Makes d (es ++ fs) a := by
  have hfirst := h.makes_perm List.perm_middle hes
  exact ⟨he.leads_cons_iff.1 hfirst.1, (List.pairwise_cons.1 hfirst.2).2⟩

/-- An idle entry may be added where no other has its key. -/
theorem makes_add {e : EntryText} (he : rec.Idle d e) {es fs : List EntryText} (hapart : ∀ f ∈ es ++ fs, rec.Apart e f) {a : R}
    (hes : rec.Makes d (es ++ fs) a) : rec.Makes d (es ++ e :: fs) a :=
  h.makes_perm List.perm_middle.symm ⟨he.leads_cons_iff.2 hes.1, .cons hapart hes.2⟩

end Lawful

end Record

end Records

end Webform.Json
