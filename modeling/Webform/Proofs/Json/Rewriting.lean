import Webform.Proofs.Json.Records

/-!
# Objects rewritten

The text of an object may have its members in any order, members that the record has not, and members that stand for a default or
not (`Record.Rewriting`). A record whose members are independent reads the same from all of these texts
(`Record.Lawful.ofText_rewritten`).
-/

namespace Webform.Json

/-! ## Texts of objects -/

/-- A text of an object with blanks around it. -/
structure ObjectText where
  before : List Char
  gap : List Char
  entries : List EntryText
  after : List Char

namespace ObjectText

/-- The text itself. -/
def text (t : ObjectText) : String := .ofList (t.before ++ (Bracket.object.around t.gap t.entries ++ t.after))

/-- The text is JSON. -/
structure Valid (t : ObjectText) : Prop where
  before : IsBlank t.before
  gap : IsBlank t.gap
  fits : ∀ e ∈ t.entries, e.Fits .object
  values : ∀ e ∈ t.entries, IsValue e.value
  after : IsBlank t.after

/-- The text of an object with one member. -/
def single (e : EntryText) : ObjectText := ⟨[], [], [e], []⟩

theorem valid_single {e : EntryText} (hfits : e.Fits .object) (hv : IsValue e.value) : (single e).Valid :=
  ⟨.nil, .nil, List.forall_mem_singleton.2 hfits, List.forall_mem_singleton.2 hv, .nil⟩

end ObjectText

/-! ## Rewritings -/

/-- A value that leaves a nullable text empty. -/
def IsEmptyText (v : List Char) : Prop := v = ['n', 'u', 'l', 'l'] ∨ v = ['"', '"']

section Rewriting

variable {R : Type} {rec : Record R} {nullable : List String} {d : Nat}

namespace Record

/-- The value of the member is read as the default: a text with no other member is read as the record that absent members leave as
it is. -/
def ReadsDefault (rec : Record R) (e : EntryText) : Prop := rec.codec.ofText (ObjectText.single e).text = .ok rec.start

/-- One rewriting of the members of an object. The keys that are nullable are those of texts that may be absent, `null` or empty
alike. -/
inductive Rewriting (rec : Record R) (nullable : List String) : List EntryText → List EntryText → Prop where
  | permute {es fs : List EntryText} : es.Perm fs → Rewriting rec nullable es fs
  | addIgnored {es fs : List EntryText} {e : EntryText} {key : String} :
      e.Names key → key ∉ rec.keys → Rewriting rec nullable (es ++ fs) (es ++ e :: fs)
  | removeIgnored {es fs : List EntryText} {e : EntryText} {key : String} :
      e.Names key → key ∉ rec.keys → Rewriting rec nullable (es ++ e :: fs) (es ++ fs)
  | addDefault {es fs : List EntryText} {e : EntryText} {key : String} :
      e.Names key → rec.ReadsDefault e → (∀ f ∈ es ++ fs, ¬f.Names key) → Rewriting rec nullable (es ++ fs) (es ++ e :: fs)
  | removeDefault {es fs : List EntryText} {e : EntryText} {key : String} :
      e.Names key → rec.ReadsDefault e → Rewriting rec nullable (es ++ e :: fs) (es ++ fs)
  | exchangeEmpty {es fs : List EntryText} {e f : EntryText} {key : String} :
      key ∈ nullable → e.Names key → f.Names key → IsEmptyText e.value → IsEmptyText f.value →
        Rewriting rec nullable (es ++ e :: fs) (es ++ f :: fs)
  | addEmpty {es fs : List EntryText} {e : EntryText} {key : String} :
      key ∈ nullable → e.Names key → IsEmptyText e.value → (∀ f ∈ es ++ fs, ¬f.Names key) →
        Rewriting rec nullable (es ++ fs) (es ++ e :: fs)
  | removeEmpty {es fs : List EntryText} {e : EntryText} {key : String} :
      key ∈ nullable → e.Names key → IsEmptyText e.value → Rewriting rec nullable (es ++ e :: fs) (es ++ fs)

/-! ## Idle members -/

/-- The key is that of a nullable text that is empty at the start. -/
def Nullable (rec : Record R) (key : String) : Prop :=
  ∃ get set, rec.member? key = some (.of key .nullableText get set) ∧ set rec.start "" = rec.start

theorem idle_of_ignored {e : EntryText} {key : String} (hname : e.Names key) (hkey : key ∉ rec.keys) : rec.Idle d e := by
  refine ⟨key, hname, ?_⟩
  rw [Sets, member?_eq_none_iff.2 hkey]

theorem Nullable.idle {e : EntryText} {key : String} (hkey : rec.Nullable key) (hname : e.Names key) (hv : IsEmptyText e.value) :
    rec.Idle d e := by
  obtain ⟨get, set, hm, hset⟩ := hkey
  refine ⟨key, hname, ?_⟩
  have hgives : Gives Codec.nullableText.read d e.value "" := by
    unfold Gives
    rcases hv with hv | hv <;> rw [hv] <;> rfl
  rw [Sets, hm]
  exact Scan.as_eq_ok_iff.2 ⟨"", hgives, hset⟩

namespace Lawful

variable (h : rec.Lawful)

include h

/-- What a text of an object is read as. -/
theorem ofText_text_iff {t : ObjectText} (ht : t.Valid) (a : R) :
    rec.codec.ofText t.text = .ok a ↔ rec.Makes 126 t.entries a :=
  (h.local_codec.ofText_iff ht.before (.entries .object ht.gap ht.fits ht.values) ht.after a).trans
    (h.gives_object_iff ht.gap ht.fits ht.values a)

theorem idle_of_readsDefault {e : EntryText} (hfits : e.Fits .object) (hv : IsValue e.value) (he : rec.ReadsDefault e) :
    rec.Idle 126 e := by
  obtain ⟨hleads, -⟩ := (h.ofText_text_iff (ObjectText.valid_single hfits hv) rec.start).1 he
  obtain _ | ⟨hname, hset, ⟨⟩⟩ := hleads
  exact ⟨_, hname, hset⟩

theorem makes_rewriting (hnullable : ∀ key ∈ nullable, rec.Nullable key) {es fs : List EntryText}
    (hes : ∀ e ∈ es, e.Fits .object ∧ IsValue e.value) (hfs : ∀ e ∈ fs, e.Fits .object ∧ IsValue e.value)
    (hr : rec.Rewriting nullable es fs) {a : R} (ha : rec.Makes 126 es a) : rec.Makes 126 fs a := by
  cases hr with
  | permute hperm => exact h.makes_perm hperm ha
  | addIgnored hname hkey =>
    exact h.makes_add (idle_of_ignored hname hkey) (fun f _ => (apart_iff_of_names hname).2 fun hmem => absurd hmem hkey) ha
  | removeIgnored hname hkey => exact h.makes_remove (idle_of_ignored hname hkey) ha
  | @addDefault es fs e key hname he habsent =>
    obtain ⟨hfits, hv⟩ := hfs e (by simp)
    exact h.makes_add (h.idle_of_readsDefault hfits hv he) (fun f hf => (apart_iff_of_names hname).2 fun _ => habsent f hf) ha
  | @removeDefault es fs e key hname he =>
    obtain ⟨hfits, hv⟩ := hes e (by simp)
    exact h.makes_remove (h.idle_of_readsDefault hfits hv he) ha
  | @exchangeEmpty es fs e f key hkey he hf hev hfv =>
    have hremoved := h.makes_remove ((hnullable _ hkey).idle he hev) ha
    have hapart := (List.pairwise_cons.1 (h.makes_perm List.perm_middle ha).2).1
    exact h.makes_add ((hnullable _ hkey).idle hf hfv)
      (fun g hg => (apart_iff_of_names hf).2 fun hmem hname => hapart g hg key hmem he hname) hremoved
  | addEmpty hkey hname hv habsent =>
    exact h.makes_add ((hnullable _ hkey).idle hname hv) (fun f hf => (apart_iff_of_names hname).2 fun _ => habsent f hf) ha
  | removeEmpty hkey hname hv => exact h.makes_remove ((hnullable _ hkey).idle hname hv) ha

/-- A text with its members rewritten is read as the same record. -/
theorem ofText_rewritten (hnullable : ∀ key ∈ nullable, rec.Nullable key) {t u : ObjectText} (ht : t.Valid) (hu : u.Valid)
    (hr : rec.Rewriting nullable t.entries u.entries) {a : R} (ha : rec.codec.ofText t.text = .ok a) :
    rec.codec.ofText u.text = .ok a := by
  have hes := fun e he => And.intro (ht.fits e he) (ht.values e he)
  have hfs := fun e he => And.intro (hu.fits e he) (hu.values e he)
  exact (h.ofText_text_iff hu a).2 (h.makes_rewriting hnullable hes hfs hr ((h.ofText_text_iff ht a).1 ha))

end Lawful

end Record

end Rewriting

end Webform.Json
