import Webform.Proofs.Command.Lines

/-!
# Flags of command lines

A flag is given exactly when its name stands among the arguments before `--` (`Usage.mem_flags_of_read?`), so the command line tells
whether the rules of the fields count (`Request.enforce_of_ofArguments?`).
-/

namespace Webform.Command

namespace Usage

variable {u : Usage}

/-- Something that is so of what has been read when reading goes on. -/
def Advance.Holds (P : Given → Prop) : Advance → Prop
  | taken g | awaiting g | operands g => P g
  | help | refused => True

theorem Advance.holds_ofOption {P : Given → Prop} {g : Option Given} (h : ∀ g' ∈ g, P g') : (Advance.ofOption g).Holds P := by
  cases g with
  | none => trivial
  | some g => exact h g rfl

theorem Advance.Holds.imp {P Q : Given → Prop} {b : Advance} (h : b.Holds P) (himp : ∀ g, P g → Q g) : b.Holds Q := by
  cases b with
  | taken g | awaiting g | operands g => exact himp g h
  | help | refused => trivial

theorem flags_of_addOutput? {g g' : Given} {path : String} (h : g' ∈ addOutput? g path) : g'.flags = g.flags := by
  unfold addOutput? at h
  split at h
  · cases h
  · cases h
    rfl

theorem flags_of_addOperand? {g g' : Given} {text : String} (h : g' ∈ u.addOperand? g text) : g'.flags = g.flags := by
  unfold addOperand? at h
  split at h
  · cases h
  · cases h
    rfl

theorem flags_of_addOperands? {g g' : Given} {as : List String} (h : u.addOperands? g as = some g') : g'.flags = g.flags := by
  induction as generalizing g with
  | nil =>
    cases h
    rfl
  | cons a as ih =>
    rw [addOperands?, Option.bind_eq_some_iff] at h
    obtain ⟨g₁, hg₁, h⟩ := h
    exact (ih h).trans (flags_of_addOperand? hg₁)

theorem flags_of_finish? {g g' : Given} (h : u.finish? g = some (some g')) : g'.flags = g.flags := by
  unfold finish? at h
  split at h
  · cases h
    rfl
  · cases h

theorem flags_readLetters (letters : List Char) (g : Given) : (u.readLetters g letters).Holds (·.flags = g.flags) := by
  fun_induction u.readLetters g letters with
  | case1 => rfl
  | case2 _ ih => exact ih
  | case3 | case4 | case8 => trivial
  | case5 => rfl
  | case6 | case7 => exact Advance.holds_ofOption fun _ hg => flags_of_addOutput? hg

/-- An argument adds the flag that it is the name of, and no other. -/
theorem mem_flags_readArgument {name : String} (hname : name ∉ ["output", "verbose", "help"]) (g : Given) (awaiting : Bool)
    (a : Argument) : (u.readArgument g awaiting a).Holds fun g' => name ∈ g'.flags ↔ name ∈ g.flags ∨ a = .long name none := by
  have hother {b : Advance} (hb : b.Holds (·.flags = g.flags)) (ha : a ≠ .long name none) :
      b.Holds fun g' => name ∈ g'.flags ↔ name ∈ g.flags ∨ a = .long name none :=
    hb.imp fun g' hg => by simp [hg, ha]
  cases awaiting with
  | true =>
    cases a with
    | operand path => exact hother (Advance.holds_ofOption fun _ hg => flags_of_addOutput? hg) (by simp)
    | rest | long | short => trivial
  | false =>
    cases a with
    | rest => exact hother rfl (by simp)
    | operand text => exact hother (Advance.holds_ofOption fun _ hg => flags_of_addOperand? hg) (by simp)
    | short letters => exact hother (flags_readLetters letters g) (by simp)
    | long other value =>
      simp only [readArgument]
      unfold readLong
      split
      · split
        · exact hother rfl (by rintro ⟨⟩; simp at hname)
        · trivial
      · split
        · exact hother (Advance.holds_ofOption fun _ hg => flags_of_addOutput? hg) (by simp)
        · trivial
      · trivial
      · exact hother rfl (by rintro ⟨⟩; simp at hname)
      · trivial
      · refine Advance.holds_ofOption fun g' hg => ?_
        unfold addFlag? at hg
        split at hg
        · cases hg
          simp [or_comm, eq_comm]
        · cases hg

theorem Advance.ofOption_ne_operands (o : Option Given) (g : Given) : Advance.ofOption o ≠ .operands g := by
  cases o <;> nofun

theorem readLetters_ne_operands (letters : List Char) (g g' : Given) : u.readLetters g letters ≠ .operands g' := by
  fun_induction u.readLetters g letters with
  | case1 | case3 | case4 | case5 | case8 => nofun
  | case2 _ ih => exact ih
  | case6 | case7 => exact Advance.ofOption_ne_operands _ _

/-- Only `--` ends the options. -/
theorem eq_rest_of_readArgument {g g' : Given} {awaiting : Bool} {a : Argument} (h : u.readArgument g awaiting a = .operands g') :
    a = .rest := by
  cases awaiting with
  | true =>
    cases a with
    | operand path => exact absurd h (Advance.ofOption_ne_operands _ _)
    | rest | long | short => cases h
  | false =>
    cases a with
    | rest => rfl
    | operand text => exact absurd h (Advance.ofOption_ne_operands _ _)
    | short letters =>
      exact absurd h (readLetters_ne_operands _ _ _)
    | long name value =>
      simp only [readArgument] at h
      unfold readLong at h
      split at h
      · split at h <;> cases h
      · split at h
        · exact absurd h (Advance.ofOption_ne_operands _ _)
        · cases h
      · cases h
      · cases h
      · cases h
      · exact absurd h (Advance.ofOption_ne_operands _ _)

/-- A flag is given when its name stands among the arguments before `--`. -/
theorem mem_flags_of_read? {name : String} (hof : Argument.of ("--" ++ name) = .long name none)
    (hname : name ∉ ["output", "verbose", "help"]) {as : List String} {g g' : Given} {awaiting : Bool}
    (h : u.read? g awaiting as = some (some g')) :
    name ∈ g'.flags ↔ name ∈ g.flags ∨ "--" ++ name ∈ as.takeWhile (· ≠ "--") := by
  induction as generalizing g awaiting with
  | nil =>
    cases awaiting with
    | true => cases h
    | false => simp [flags_of_finish? (u := u) h]
  | cons a as ih =>
    rw [read?_cons] at h
    by_cases hrest : Argument.of a = .rest
    · rw [hrest] at h
      cases awaiting with
      | true => cases h
      | false =>
        obtain ⟨g₁, hg₁, hfinish⟩ := Option.bind_eq_some_iff.1 h
        rw [flags_of_finish? hfinish, flags_of_addOperands? hg₁, Argument.eq_of_of_eq_rest hrest]
        simp
    · have hne : a ≠ "--" := fun ha => hrest (ha ▸ rfl)
      have hlong : Argument.of a = .long name none ↔ "--" ++ name = a :=
        ⟨fun h => (Argument.eq_of_of_eq_long h).symm, fun h => h ▸ hof⟩
      have hflags := mem_flags_readArgument (u := u) hname g awaiting (.of a)
      rw [hlong] at hflags
      generalize hb : u.readArgument g awaiting (.of a) = b at h hflags
      cases b with
      | taken g₁ | awaiting g₁ =>
        have hflags : name ∈ g₁.flags ↔ name ∈ g.flags ∨ "--" ++ name = a := hflags
        rw [ih h, hflags, List.takeWhile_cons_of_pos (by simpa using hne), List.mem_cons, or_assoc]
      | operands g₁ => exact absurd (eq_rest_of_readArgument hb) hrest
      | help | refused => cases h

end Usage

namespace Request

theorem enforce_of_usage? {command form submission : String} {u : Usage} {request? : Given → Option Request} {g : Given}
    {enforce : Bool} (h : usage? command = some (u, request?)) (hg : request? g = some (.validate form submission enforce)) :
    enforce = false ↔ "required-only" ∈ g.flags := by
  unfold usage? at h
  split at h
  · cases h
    dsimp only at hg
    split at hg <;> cases hg
  · cases h
    dsimp only at hg
    split at hg
    · cases hg
      simp
    · cases hg
  · cases h
    dsimp only at hg
    split at hg <;> cases hg
  · cases h

theorem helpOn?_eq_some {as : List String} {request : Request} (h : helpOn? as = some request) : request = .help := by
  unfold helpOn? at h
  split at h
  · cases h
    rfl
  · split at h
    · cases h
      rfl
    · cases h
  · cases h

theorem enforce_of_ofCommand? {command form submission : String} {enforce : Bool} {as : List String}
    (h : ofCommand? command as = some (.validate form submission enforce)) :
    enforce = false ↔ "--required-only" ∈ as.takeWhile (· ≠ "--") := by
  unfold ofCommand? at h
  split at h
  · cases helpOn?_eq_some h
  · split at h
    · cases h
    · rename_i u request? husage
      split at h
      · cases h
      · cases h
      · rename_i g hread
        have hgiven : "required-only" ∈ g.flags ↔ "required-only" ∈ [] ∨ "--" ++ "required-only" ∈ as.takeWhile (· ≠ "--") :=
          Usage.mem_flags_of_read? rfl (by decide) hread
        rw [enforce_of_usage? husage h, hgiven]
        exact or_iff_right List.not_mem_nil

/-- Whether the rules of the fields count is told by a flag of the command line. -/
theorem enforce_of_ofArguments? {arguments : List String} {form submission : String} {enforce : Bool}
    (h : ofArguments? arguments = some (.validate form submission enforce)) :
    enforce = false ↔ "--required-only" ∈ arguments.takeWhile (· ≠ "--") := by
  induction arguments with
  | nil => cases h
  | cons a as ih =>
    have hpass (hrest : Argument.of a ≠ .rest) (hflag : Argument.of a ≠ .long "required-only" none) :
        "--required-only" ∈ (a :: as).takeWhile (· ≠ "--") ↔ "--required-only" ∈ as.takeWhile (· ≠ "--") := by
      have hne : a ≠ "--" := fun ha => hrest (ha ▸ rfl)
      have hne' : "--required-only" ≠ a := fun ha => hflag (ha ▸ rfl)
      rw [List.takeWhile_cons_of_pos (by simpa using hne), List.mem_cons, or_iff_right hne']
    rw [ofArguments?] at h
    split at h
    · rename_i hof
      rw [hpass (by simp [hof]) (by simp [hof])]
      exact enforce_of_ofCommand? h
    · rename_i hof
      rw [hpass (by simp [hof]) (by simp [hof])]
      exact ih h
    · cases h
    · cases h
    · rename_i hof
      split at h
      · cases h
      · rename_i hletters
        cases h
        rcases eq_of_ofLetters?_eq_some hletters with hrequest | hrequest <;> cases hrequest
      · rw [hpass (by simp [hof]) (by simp [hof])]
        exact ih h
    · cases h

end Request

end Webform.Command
