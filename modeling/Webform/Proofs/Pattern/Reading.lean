import Webform.Pattern.Reader
import Webform.Proofs.Pattern.Classes
import Webform.Proofs.Pattern.Search

/-!
# Reading patterns inside other patterns

Reading a pattern goes the same way inside a group as outside one (`step?_inside`), and when more text follows that closes the
group, the reader comes to that text in the state in which the pattern alone leaves it, or ends in that state because the text
has become part of a comment (`run?_append`). No repetition that is read asks for more times than it allows
(`bounded_of_read?`).
-/

namespace Webform.Pattern

namespace Progress

/-- The same place of a pattern with more groups around it. -/
def inside (p : Progress) (outer : List Scope) : Progress := { p with scopes := p.scopes ++ outer }

/-! ## One piece or operator -/

variable {p p' : Progress} {cs rest : List Char}

theorem repeatLast?_inside {low : Nat} {high : Option Nat} {lazy : Bool} (h : p.repeatLast? low high lazy = some p')
    (outer : List Scope) : (p.inside outer).repeatLast? low high lazy = some (p'.inside outer) := by
  unfold repeatLast? at h ⊢
  cases hitems : p.items with
  | nil =>
    rw [hitems] at h
    cases h
  | cons i is =>
    simp only [hitems, Option.ite_none_left_eq_some, Option.some.injEq] at h
    obtain ⟨hflags, rfl⟩ := h
    have hitems' : (p.inside outer).items = i :: is := hitems
    simp only [hitems', if_neg hflags]
    rfl

theorem leave?_inside (h : p.leave? = some p') (outer : List Scope) : (p.inside outer).leave? = some (p'.inside outer) := by
  unfold leave? at h ⊢
  cases hscopes : p.scopes with
  | nil =>
    rw [hscopes] at h
    cases h
  | cons s around =>
    rw [hscopes] at h
    cases h
    have hscopes' : (p.inside outer).scopes = s :: (around ++ outer) := congrArg (· ++ outer) hscopes
    rw [hscopes']
    rfl

theorem open?_inside (h : p.open? cs = some (p', rest)) (outer : List Scope) :
    (p.inside outer).open? cs = some (p'.inside outer, rest) := by
  simp only [open?, Option.bind_eq_bind, Option.bind_eq_some_iff] at h ⊢
  obtain ⟨⟨o, r⟩, ho, h⟩ := h
  refine ⟨(o, r), ho, ?_⟩
  cases o with
  | capture name =>
    cases name with
    | none =>
      cases h
      rfl
    | some name =>
      simp only [Option.ite_none_left_eq_some] at h ⊢
      obtain ⟨hname, heq⟩ := h
      cases heq
      exact ⟨hname, rfl⟩
  | plain fs =>
    cases h
    rfl
  | flags fs =>
    cases h
    rfl

/-- A piece or operator does the same with more groups around it. -/
theorem step?_inside {c : Char} (h : p.step? c cs = some (p', rest)) (outer : List Scope) :
    (p.inside outer).step? c cs = some (p'.inside outer, rest) := by
  unfold step? at h
  split at h
  case h_1 => exact open?_inside h outer
  case h_2 =>
    obtain ⟨q, hq, heq⟩ := Option.map_eq_some_iff.1 h
    cases heq
    simp [step?, leave?_inside hq outer]
  case h_4 =>
    simp only [Option.bind_eq_bind, Option.bind_eq_some_iff] at h
    obtain ⟨⟨n, r⟩, hclass, heq⟩ := h
    cases heq
    simp only [step?, Option.bind_eq_bind, Option.bind_eq_some_iff]
    exact ⟨(n, _), hclass, rfl⟩
  case h_5 | h_6 | h_7 =>
    obtain ⟨q, hq, heq⟩ := Option.map_eq_some_iff.1 h
    cases heq
    simp [step?, repeatLast?_inside hq outer]
  case h_8 =>
    simp only [Option.bind_eq_bind, Option.bind_eq_some_iff] at h
    obtain ⟨⟨⟨low, high⟩, r⟩, hbounds, q, hq, heq⟩ := h
    cases heq
    simp only [step?, Option.bind_eq_bind, Option.bind_eq_some_iff]
    exact ⟨((low, high), r), hbounds, _, repeatLast?_inside hq outer, rfl⟩
  case h_9 =>
    simp only [Option.bind_eq_bind, Option.bind_eq_some_iff] at h
    obtain ⟨⟨piece, r⟩, hescape, e, he, heq⟩ := h
    cases heq
    simp only [step?, Option.bind_eq_bind, Option.bind_eq_some_iff]
    exact ⟨(piece, _), hescape, e, he, rfl⟩
  case h_10 =>
    obtain ⟨s, hs, heq⟩ := Option.map_eq_some_iff.1 h
    cases heq
    simp only [step?, Option.map_eq_some_iff]
    exact ⟨s, hs, rfl⟩
  case h_3 | h_11 | h_12 =>
    cases h
    rfl
  case h_13 =>
    cases h
    simp [step?, *]
    rfl

/-! ## More text after a piece -/

theorem skipLazy_append (cs : List Char) {ys : List Char} (hys : Closes ys) : skipLazy (cs ++ ys) = skipLazy cs ++ ys := by
  unfold skipLazy
  split
  · rename_i r heq
    obtain ⟨u, rfl⟩ := exists_of_append_eq_cons hys (by decide) heq
    cases heq
    rfl
  · rename_i hlazy
    split
    · rename_i r
      exact absurd rfl (hlazy (r ++ ys))
    · rfl

theorem isLazy_append (cs : List Char) {ys : List Char} (hys : Closes ys) : isLazy (cs ++ ys) = isLazy cs := by
  cases cs with
  | nil =>
    obtain ⟨t, rfl⟩ := hys.first
    rfl
  | cons c cs =>
    rw [List.cons_append]
    unfold isLazy
    split <;> simp_all

theorem persists_open? (h : p.open? cs = some (p', rest)) : Persists p.open? cs p' rest := by
  simp only [open?, Option.bind_eq_bind, Option.bind_eq_some_iff] at h
  obtain ⟨⟨o, r⟩, ho, h⟩ := h
  -- What is made of the opening does not look at the text after it.
  obtain ⟨rfl, hrest⟩ : r = rest ∧ ∀ cs' r', opening? p.flags cs' = some (o, r') → p.open? cs' = some (p', r') := by
    cases o with
    | capture name =>
      cases name with
      | none =>
        cases h
        exact ⟨rfl, fun cs' r' ho' => by simp [open?, ho']⟩
      | some name =>
        simp only [Option.ite_none_left_eq_some] at h
        obtain ⟨hname, heq⟩ := h
        cases heq
        exact ⟨rfl, fun cs' r' ho' => by simp [open?, ho', hname]⟩
    | plain fs =>
      cases h
      exact ⟨rfl, fun cs' r' ho' => by simp [open?, ho']⟩
    | flags fs =>
      cases h
      exact ⟨rfl, fun cs' r' ho' => by simp [open?, ho']⟩
  rcases persists_opening? ho with hkept | ⟨hnil, hopens, hswallowed⟩
  · exact Or.inl fun ys hys => hrest _ _ (hkept ys hys)
  · exact Or.inr ⟨hnil, hopens, fun ys hys => hrest _ _ (hswallowed ys hys)⟩

/-- What a piece or operator does is not changed by more text after it. -/
theorem persists_step? {c : Char} (h : p.step? c cs = some (p', rest)) : Persists (p.step? c) cs p' rest := by
  unfold step? at h
  split at h
  case h_1 => exact persists_open? h
  case h_2 =>
    obtain ⟨q, hq, heq⟩ := Option.map_eq_some_iff.1 h
    cases heq
    exact Or.inl fun ys _ => by simp [step?, hq]
  case h_4 =>
    simp only [Option.bind_eq_bind, Option.bind_eq_some_iff] at h
    obtain ⟨⟨n, r⟩, hclass, heq⟩ := h
    cases heq
    refine Or.inl fun ys hys => ?_
    have hclass' := kept_class? hclass ys hys
    rw [List.cons_append] at hclass'
    simp [step?, hclass']
  case h_5 | h_6 | h_7 =>
    obtain ⟨q, hq, heq⟩ := Option.map_eq_some_iff.1 h
    cases heq
    exact Or.inl fun ys hys => by simp [step?, hq, isLazy_append cs hys, skipLazy_append cs hys]
  case h_8 =>
    simp only [Option.bind_eq_bind, Option.bind_eq_some_iff] at h
    obtain ⟨⟨⟨low, high⟩, r⟩, hbounds, q, hq, heq⟩ := h
    cases heq
    rcases skip_append p.flags r with hskip | ⟨hnil, hopens, hskip⟩
    · refine Or.inl fun ys hys => ?_
      simp [step?, kept_bounds? hbounds ys hys, hq, hskip ys hys, isLazy_append _ hys, skipLazy_append _ hys]
    · refine Or.inr ⟨by rw [hnil]; rfl, hopens.of_suffix (bounds?_suffix hbounds), fun ys hys => ?_⟩
      rw [hnil] at hq
      simp [step?, kept_bounds? hbounds ys hys, hskip ys hys, hq, skipLazy]
  case h_9 =>
    simp only [Option.bind_eq_bind, Option.bind_eq_some_iff] at h
    obtain ⟨⟨piece, r⟩, hescape, e, he, heq⟩ := h
    cases heq
    rcases persists_escape? hescape with hkept | ⟨hnil, hopens, hswallowed⟩
    · exact Or.inl fun ys hys => by simp [step?, hkept ys hys, he]
    · exact Or.inr ⟨hnil, hopens, fun ys hys => by simp [step?, hswallowed ys hys, he]⟩
  case h_10 =>
    obtain ⟨s, hs, heq⟩ := Option.map_eq_some_iff.1 h
    cases heq
    exact Or.inl fun ys _ => by simp [step?, hs]
  case h_3 | h_11 | h_12 =>
    cases h
    exact Or.inl fun _ _ => rfl
  case h_13 =>
    cases h
    exact Or.inl fun _ _ => by simp [step?, *]

/-! ## More text after a pattern -/

theorem skip_of_closes (fs : Flags) {ys : List Char} (hys : Closes ys) : skip fs ys = ys := by
  obtain ⟨t, rfl⟩ := hys.first
  unfold skip
  split <;> rfl

theorem run?_nil (n : Nat) (p : Progress) : run? (n + 1) p [] = some p := by
  rw [run?, skip_nil]

/-- One round of the reader. -/
theorem run?_of_step? {n : Nat} {c : Char} (hs : skip p.flags cs = c :: rest) {left : List Char}
    (hstep : p.step? c rest = some (p', left)) : run? (n + 1) p cs = run? n p' left := by
  rw [run?, hs]
  simp only [hstep]

/-- The reader comes to text after `cs` in the state `q`, with rounds left for that text. -/
def Leads (n : Nat) (p : Progress) (cs : List Char) (m : Nat) (q : Progress) : Prop :=
  ∀ outer ys k, Closes ys → run? (n + k) (p.inside outer) (cs ++ ys) = run? (m + 1 + k) (q.inside outer) ys

/-- The reader ends in the state `q`, whatever text there is after `cs`. -/
def Ends (n : Nat) (p : Progress) (cs : List Char) (q : Progress) : Prop :=
  ∀ outer ys k, Closes ys → run? (n + k) (p.inside outer) (cs ++ ys) = some (q.inside outer)

/-- The reader comes to the text after a pattern in the state in which it leaves the pattern, or the text is in a comment and the
reader ends in that state. -/
theorem run?_append {n : Nat} {p q : Progress} {cs : List Char} (h : run? n p cs = some q) :
    (∃ m, Leads n p cs m q) ∨ (OpensComment cs ∧ Ends n p cs q) := by
  induction n generalizing p cs with
  | zero => cases h
  | succ n ih =>
    rw [run?] at h
    cases hs : skip p.flags cs with
    | nil =>
      rw [hs] at h
      cases h
      rcases skip_append q.flags cs with hskip | ⟨-, hopens, hskip⟩
      · refine Or.inl ⟨n, fun outer ys k hys => ?_⟩
        have hsame : skip (q.inside outer).flags (cs ++ ys) = skip (q.inside outer).flags ys := by
          rw [skip_of_closes _ hys]
          exact (hskip ys hys).trans (by rw [hs]; rfl)
        rw [Nat.add_right_comm, run?, run?, hsame]
      · refine Or.inr ⟨hopens, fun outer ys k hys => ?_⟩
        have hempty : skip (q.inside outer).flags (cs ++ ys) = [] := hskip ys hys
        rw [Nat.add_right_comm, run?, hempty]
    | cons c r =>
      rw [hs] at h
      cases hstep : p.step? c r with
      | none =>
        simp only [hstep] at h
        cases h
      | some next =>
        obtain ⟨p', rest⟩ := next
        simp only [hstep] at h
        have hend := suffix_of_skip_eq_cons hs
        have hround : ∀ outer ys k, Closes ys → ∀ left, p.step? c (r ++ ys) = some (p', left) →
            run? (n + 1 + k) (p.inside outer) (cs ++ ys) = run? (n + k) (p'.inside outer) left := by
          intro outer ys k hys left hstep'
          have hcons : skip (p.inside outer).flags (cs ++ ys) = c :: (r ++ ys) := skip_append_of_cons hs hys
          rw [Nat.add_right_comm]
          exact run?_of_step? hcons (step?_inside hstep' outer)
        rcases persists_step? hstep with hkept | ⟨rfl, hopens, hswallowed⟩
        · rcases ih h with ⟨m, hleads⟩ | ⟨hopens, hends⟩
          · refine Or.inl ⟨m, fun outer ys k hys => ?_⟩
            rw [hround outer ys k hys _ (hkept ys hys)]
            exact hleads outer ys k hys
          · refine Or.inr ⟨hopens.of_suffix ((step?_suffix hstep).trans hend), fun outer ys k hys => ?_⟩
            rw [hround outer ys k hys _ (hkept ys hys)]
            exact hends outer ys k hys
        · refine Or.inr ⟨hopens.of_suffix hend, fun outer ys k hys => ?_⟩
          rw [hround outer ys k hys _ (hswallowed ys hys)]
          cases n with
          | zero => cases h
          | succ n =>
            rw [run?_nil] at h
            cases h
            rw [Nat.add_right_comm, run?_nil]

end Progress

/-! ## Repetitions -/

theorem le_of_bounds? {fs : Flags} {cs rest : List Char} {low high : Nat} (h : bounds? fs cs = some ((low, some high), rest)) :
    low ≤ high := by
  simp only [bounds?, Option.bind_eq_bind, Option.bind_eq_some_iff] at h
  obtain ⟨n, -, h⟩ := h
  split at h
  · cases h
    exact Nat.le_refl _
  · split at h
    · cases h
    · simp only [Option.bind_eq_some_iff] at h
      obtain ⟨m, -, h⟩ := h
      split at h
      · simp only [Option.ite_none_right_eq_some] at h
        obtain ⟨hle, heq⟩ := h
        cases heq
        exact hle
      · cases h
  · cases h

/-- Joined items are bounded when the items are. -/
theorem bounded_joinItems {op : Expr → Expr → Expr} (hop : ∀ a b, a.Bounded → b.Bounded → (op a b).Bounded) {items : List Item}
    (h : ∀ i ∈ items, i.expr.Bounded) : (joinItems op items).expr.Bounded := by
  have hfold : ∀ (is : List Item) (acc : Item), (∀ i ∈ is, i.expr.Bounded) → acc.expr.Bounded →
      (is.foldl (fun acc j => { expr := op j.expr acc.expr, depth := max acc.depth (j.depth + 1) }) acc).expr.Bounded := by
    intro is
    induction is with
    | nil => exact fun _ _ hacc => hacc
    | cons j is ih =>
      intro acc his hacc
      exact ih _ (fun i hi => his i (.tail _ hi)) (hop _ _ (his j (.head _)) hacc)
  cases items with
  | nil => trivial
  | cons i is =>
    cases is with
    | nil => exact h i (.head _)
    | cons j is => exact hfold (j :: is) _ (fun k hk => h k (.tail _ hk)) (h i (.head _))

namespace Progress

/-- Everything that has been read is bounded. -/
structure Bounded (p : Progress) : Prop where
  items : ∀ i ∈ p.items, i.expr.Bounded
  branches : ∀ i ∈ p.branches, i.expr.Bounded
  scopes : ∀ s ∈ p.scopes, (∀ i ∈ s.items, i.expr.Bounded) ∧ ∀ i ∈ s.branches, i.expr.Bounded

variable {p p' : Progress} {cs rest : List Char}

theorem Bounded.branch (h : p.Bounded) : (joinItems .seq p.items).expr.Bounded := by
  have hseq : ∀ a b : Expr, a.Bounded → b.Bounded → (a.seq b).Bounded := fun _ _ ha hb => ⟨ha, hb⟩
  exact bounded_joinItems hseq h.items

theorem Bounded.close (h : p.Bounded) : p.close.expr.Bounded := by
  have halt : ∀ a b : Expr, a.Bounded → b.Bounded → (a.alt b).Bounded := fun _ _ ha hb => ⟨ha, hb⟩
  refine bounded_joinItems halt fun i hi => ?_
  rcases List.mem_cons.1 hi with rfl | hi
  · exact h.branch
  · exact h.branches i hi

theorem Bounded.push (h : p.Bounded) {e : Expr} (he : e.Bounded) (depth : Nat) : (p.push e depth).Bounded where
  items := by
    intro i hi
    rcases List.mem_cons.1 hi with rfl | hi
    · exact he
    · exact h.items i hi
  branches := h.branches
  scopes := h.scopes

theorem Bounded.enter (h : p.Bounded) (captures : Bool) (fs : Flags) : (p.enter captures fs).Bounded where
  items := nofun
  branches := nofun
  scopes := by
    intro s hs
    rcases List.mem_cons.1 hs with rfl | hs
    · exact ⟨h.items, h.branches⟩
    · exact h.scopes s hs

theorem Bounded.repeatLast? (h : p.Bounded) {low : Nat} {high : Option Nat} {lazy : Bool} (hle : ∀ m, high = some m → low ≤ m)
    (hp : p.repeatLast? low high lazy = some p') : p'.Bounded := by
  unfold Progress.repeatLast? at hp
  split at hp
  · cases hp
  · rename_i i is hitems
    simp only [Option.ite_none_left_eq_some, Option.some.injEq] at hp
    obtain ⟨-, rfl⟩ := hp
    have hlast : ∀ j ∈ i :: is, j.expr.Bounded := hitems ▸ h.items
    refine ⟨fun j hj => ?_, h.branches, h.scopes⟩
    rcases List.mem_cons.1 hj with rfl | hj
    · exact ⟨hle, hlast i (.head _)⟩
    · exact hlast j (.tail _ hj)

theorem Bounded.leave? (h : p.Bounded) (hp : p.leave? = some p') : p'.Bounded := by
  unfold Progress.leave? at hp
  split at hp
  · cases hp
  · rename_i s around hscopes
    cases hp
    have hscope : ∀ t ∈ s :: around, (∀ i ∈ t.items, i.expr.Bounded) ∧ ∀ i ∈ t.branches, i.expr.Bounded := hscopes ▸ h.scopes
    refine ⟨fun i hi => ?_, (hscope s (.head _)).2, fun t ht => hscope t (.tail _ ht)⟩
    rcases List.mem_cons.1 hi with rfl | hi
    · exact h.close
    · exact (hscope s (.head _)).1 i hi

theorem Bounded.open? (h : p.Bounded) (hp : p.open? cs = some (p', rest)) : p'.Bounded := by
  simp only [Progress.open?, Option.bind_eq_bind, Option.bind_eq_some_iff] at hp
  obtain ⟨⟨o, r⟩, -, hp⟩ := hp
  cases o with
  | capture name =>
    cases name with
    | none =>
      cases hp
      exact h.enter true p.flags
    | some name =>
      simp only [Option.ite_none_left_eq_some] at hp
      obtain ⟨-, heq⟩ := hp
      cases heq
      have hnamed : Bounded { p with names := name :: p.names } := ⟨h.items, h.branches, h.scopes⟩
      exact hnamed.enter true p.flags
  | plain fs =>
    cases hp
    exact h.enter false fs
  | flags fs =>
    cases hp
    refine ⟨fun i hi => ?_, h.branches, h.scopes⟩
    rcases List.mem_cons.1 hi with rfl | hi
    · trivial
    · exact h.items i hi

theorem bounded_expr? {fs : Flags} {piece : Primitive} {e : Expr} (h : piece.expr? fs = some e) : e.Bounded := by
  cases piece with
  | char c byte =>
    simp only [Primitive.expr?, Option.ite_none_left_eq_some, Option.some.injEq] at h
    obtain ⟨-, rfl⟩ := h
    trivial
  | set s =>
    cases h
    trivial
  | look l =>
    cases h
    trivial

/-- One piece or operator keeps what has been read bounded. -/
theorem Bounded.step? (h : p.Bounded) {c : Char} (hp : p.step? c cs = some (p', rest)) : p'.Bounded := by
  unfold Progress.step? at hp
  split at hp
  case h_1 => exact h.open? hp
  case h_2 =>
    obtain ⟨q, hq, heq⟩ := Option.map_eq_some_iff.1 hp
    cases heq
    exact h.leave? hq
  case h_3 =>
    cases hp
    refine ⟨nofun, fun i hi => ?_, h.scopes⟩
    rcases List.mem_cons.1 hi with rfl | hi
    · exact h.branch
    · exact h.branches i hi
  case h_4 =>
    simp only [Option.bind_eq_bind, Option.bind_eq_some_iff] at hp
    obtain ⟨⟨n, r⟩, -, heq⟩ := hp
    cases heq
    exact h.push (e := .one n.set) trivial n.depth
  case h_5 =>
    obtain ⟨q, hq, heq⟩ := Option.map_eq_some_iff.1 hp
    cases heq
    exact h.repeatLast? (fun _ _ => Nat.zero_le _) hq
  case h_6 | h_7 =>
    obtain ⟨q, hq, heq⟩ := Option.map_eq_some_iff.1 hp
    cases heq
    refine h.repeatLast? (fun m hm => ?_) hq
    cases hm
  case h_8 =>
    simp only [Option.bind_eq_bind, Option.bind_eq_some_iff] at hp
    obtain ⟨⟨⟨low, high⟩, r⟩, hbounds, q, hq, heq⟩ := hp
    cases heq
    refine h.repeatLast? (fun m hm => ?_) hq
    subst hm
    exact le_of_bounds? hbounds
  case h_9 =>
    simp only [Option.bind_eq_bind, Option.bind_eq_some_iff] at hp
    obtain ⟨⟨piece, r⟩, -, e, he, heq⟩ := hp
    cases heq
    exact h.push (bounded_expr? he) 0
  case h_10 =>
    obtain ⟨s, -, heq⟩ := Option.map_eq_some_iff.1 hp
    cases heq
    exact h.push (e := .one s) trivial 0
  case h_11 =>
    cases hp
    exact h.push (e := .look p.flags.start) trivial 0
  case h_12 =>
    cases hp
    exact h.push (e := .look p.flags.finish) trivial 0
  case h_13 =>
    cases hp
    exact h.push (e := .one (p.flags.letter _)) trivial 0

theorem Bounded.run? {n : Nat} (h : p.Bounded) (hp : run? n p cs = some p') : p'.Bounded := by
  induction n generalizing p cs with
  | zero => cases hp
  | succ n ih =>
    rw [Progress.run?] at hp
    split at hp
    · cases hp
      exact h
    · split at hp
      · cases hp
      · rename_i hstep
        exact ih (h.step? hstep) hp

end Progress

/-- No repetition of a pattern asks for more times than it allows. -/
theorem bounded_of_read? {pattern : List Char} {e : Expr} (h : read? pattern = some e) : e.Bounded := by
  unfold read? at h
  split at h
  · cases h
  · rename_i p hp
    simp only [Option.ite_none_right_eq_some, Option.some.injEq] at h
    obtain ⟨-, rfl⟩ := h
    have hstart : ({} : Progress).Bounded := ⟨nofun, nofun, nofun⟩
    exact (hstart.run? hp).close

end Webform.Pattern
