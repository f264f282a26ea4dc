import Mathlib.Data.List.TakeWhile
import Webform.Command.Line

/-!
# Command lines without an output

A command line stays well formed without the option for the output, and then asks for the same without it
(`Request.ofArguments?_withoutOutput`). The two lines are read side by side: an argument that names the output adds nothing but its
path (`Usage.Outputs`), and every other one is read in the same way whether or not there is an output already (`Usage.Alike`).
-/

namespace Webform.Command

/-! ## Arguments by their form -/

namespace Argument

/-- The forms that a text may have: its first characters tell. -/
inductive Forms : List Char → Argument → Prop where
  | rest : Forms ['-', '-'] .rest
  | long {cs : List Char} {name : String} {value : Option String} :
      ofLong cs = .long name value → Forms ('-' :: '-' :: cs) (.long name value)
  | short {c : Char} (cs : List Char) : c ≠ '-' → Forms ('-' :: c :: cs) (.short (c :: cs))
  | operand (cs : List Char) (text : String) : Forms cs (.operand text)

theorem exists_ofLong_eq_long (cs : List Char) : ∃ name value, ofLong cs = .long name value := by
  unfold ofLong
  dsimp only
  split
  · exact ⟨_, _, rfl⟩
  · exact ⟨_, _, rfl⟩

theorem forms_of (text : String) : Forms text.toList (.of text) := by
  unfold Argument.of
  split
  · rename_i htext
    exact htext ▸ .rest
  · rename_i cs _ htext
    obtain ⟨name, value, hlong⟩ := exists_ofLong_eq_long cs
    rw [hlong, htext]
    exact .long hlong
  · rename_i c cs _ hc htext
    exact htext ▸ .short cs hc
  · exact .operand _ _

theorem eq_of_ofLong_eq_long {cs : List Char} {name : String} (h : ofLong cs = .long name none) : cs = name.toList := by
  unfold ofLong at h
  dsimp only at h
  split at h
  · rename_i hdrop
    cases h
    rw [String.toList_ofList]
    have hsplit := List.takeWhile_append_dropWhile (p := (· != '=')) (l := cs)
    rw [hdrop, List.append_nil] at hsplit
    exact hsplit.symm
  · cases h

theorem eq_of_of_eq_long {text name : String} (h : Argument.of text = .long name none) : text = "--" ++ name := by
  have hforms := forms_of text
  rw [h] at hforms
  generalize htext : text.toList = cs at hforms
  cases hforms with
  | long hlong =>
    rw [← String.toList_inj, htext, eq_of_ofLong_eq_long hlong, String.toList_append]
    rfl

theorem eq_of_of_eq_rest {text : String} (h : Argument.of text = .rest) : text = "--" := by
  have hforms := forms_of text
  rw [h] at hforms
  generalize htext : text.toList = cs at hforms
  cases hforms with
  | rest => exact String.toList_inj.1 htext

theorem of_short {c : Char} (hc : c ≠ '-') (cs : List Char) : Argument.of (.ofList ('-' :: c :: cs)) = .short (c :: cs) := by
  unfold Argument.of
  rw [String.toList_ofList]
  split
  · rename_i h
    cases h
    exact absurd rfl hc
  · rename_i h
    cases h
    exact absurd rfl hc
  · rename_i h
    cases h
    rfl
  · rename_i h
    exact absurd rfl (h c cs)

/-- The first few of the letters of an argument are the letters of an argument. -/
theorem of_first_letters {text : String} {c : Char} {kept rest : List Char} (h : Argument.of text = .short (c :: kept ++ rest)) :
    Argument.of (.ofList ('-' :: c :: kept)) = .short (c :: kept) := by
  have hforms := forms_of text
  rw [h] at hforms
  generalize text.toList = cs at hforms
  cases hforms with
  | short _ hc => exact of_short hc kept

end Argument

/-! ## Leaving the output out -/

/-- What has been read, without the path of the output. -/
def Given.plain (g : Given) : Given := { g with output := none }

/-- The same request without the path of the output. -/
def Request.plain : Request → Request
  | .render form options _ => .render form options none
  | request => request

/-- The arguments of a command without the option for the output; the first one is left out if it is the path for that. -/
def dropOutput : Bool → List String → List String
  | _, [] => []
  | true, _ :: as => dropOutput false as
  | false, a :: as =>
    match Argument.of a with
    | .rest => a :: as
    | .long "output" value => dropOutput value.isNone as
    | .short letters =>
      let kept := letters.takeWhile (· != 'o')
      match letters.dropWhile (· != 'o') with
      | [] => a :: dropOutput false as
      | _ :: path => (if kept.isEmpty then [] else [.ofList ('-' :: kept)]) ++ dropOutput path.isEmpty as
    | .long .. | .operand _ => a :: dropOutput false as

/-- A command line without the option for the output, `-o` or `--output`, and its path. -/
def withoutOutput : List String → List String
  | [] => []
  | a :: as =>
    match Argument.of a with
    | .operand _ => a :: dropOutput false as
    | _ => a :: withoutOutput as

namespace Usage

variable {u : Usage}

/-- Reads the arguments that follow an advance. -/
def resume (u : Usage) (as : List String) : Advance → Option (Option Given)
  | .taken g => u.read? g false as
  | .awaiting g => u.read? g true as
  | .operands g => (u.addOperands? g as).bind u.finish?
  | .help => some none
  | .refused => none

theorem read?_cons (g : Given) (awaiting : Bool) (a : String) (as : List String) :
    u.read? g awaiting (a :: as) = u.resume as (u.readArgument g awaiting (.of a)) := by
  rw [read?]
  cases u.readArgument g awaiting (.of a) <;> rfl

theorem addOutput?_plain {g g' : Given} {path : String} (h : addOutput? g path = some g') : g'.plain = g.plain := by
  unfold addOutput? at h
  split at h
  · cases h
  · cases h
    rfl

theorem addOperand?_plain (g : Given) (text : String) : u.addOperand? g.plain text = (u.addOperand? g text).map Given.plain := by
  simp only [addOperand?]
  rw [apply_ite (Option.map Given.plain)]
  rfl

theorem addOperands?_plain (g : Given) (as : List String) : u.addOperands? g.plain as = (u.addOperands? g as).map Given.plain := by
  induction as generalizing g with
  | nil => rfl
  | cons a as ih =>
    rw [addOperands?, addOperands?, addOperand?_plain]
    cases u.addOperand? g a with
    | none => rfl
    | some g => exact ih g

theorem addFlag?_plain (g : Given) (name : String) : u.addFlag? g.plain name = (u.addFlag? g name).map Given.plain := by
  simp only [addFlag?]
  rw [apply_ite (Option.map Given.plain)]
  rfl

theorem finish?_plain (g : Given) : u.finish? g.plain = (u.finish? g).map (Option.map Given.plain) := by
  simp only [finish?]
  rw [apply_ite (Option.map (Option.map Given.plain))]
  rfl

theorem finish?_addOperands?_plain (g : Given) (as : List String) :
    (u.addOperands? g.plain as).bind u.finish? = ((u.addOperands? g as).bind u.finish?).map (Option.map Given.plain) := by
  rw [addOperands?_plain]
  cases u.addOperands? g as with
  | none => rfl
  | some g => exact finish?_plain g

/-- Letters before that of the output are passed over, ask for help or are refused, whatever has been read. -/
theorem readLetters_cases {kept : List Char} (h : 'o' ∉ kept) :
    (∀ g rest, u.readLetters g (kept ++ rest) = u.readLetters g rest) ∨
    (kept ≠ [] ∧ ∀ g rest, u.readLetters g (kept ++ rest) = .help) ∨
    ∀ g rest, u.readLetters g (kept ++ rest) = .refused := by
  induction kept with
  | nil => exact .inl fun _ _ => rfl
  | cons c cs ih =>
    have hc : c ≠ 'o' := fun hc => h (hc ▸ List.mem_cons_self)
    by_cases hv : c = 'v'
    · subst hv
      rcases ih fun hmem => h (List.mem_cons_of_mem _ hmem) with hpassed | ⟨-, hhelp⟩ | hrefused
      · exact .inl hpassed
      · exact .inr (.inl ⟨List.cons_ne_nil _ _, hhelp⟩)
      · exact .inr (.inr hrefused)
    by_cases hh : c = 'h'
    · subst hh
      exact .inr (.inl ⟨List.cons_ne_nil _ _, fun _ _ => rfl⟩)
    · exact .inr (.inr fun g rest => by simp [readLetters, hc, hv, hh])

/-- The two readings of an argument, with the output that has been read and without it. -/
inductive Alike : Advance → Advance → Prop where
  | taken (g : Given) : Alike (.taken g) (.taken g.plain)
  | help : Alike .help .help
  | refused (b : Advance) : Alike .refused b

theorem Alike.ofOption (g : Option Given) : Alike (.ofOption g) (.ofOption (g.map Given.plain)) := by
  cases g with
  | none => exact .refused _
  | some g => exact .taken g

/-- An argument that does not name the output is read in the same way whether or not there is an output already. -/
theorem alike_readArgument {a : Argument} (hrest : a ≠ .rest) (hlong : ∀ value, a ≠ .long "output" value)
    (hshort : ∀ letters, a = .short letters → 'o' ∉ letters) (g : Given) :
    Alike (u.readArgument g false a) (u.readArgument g.plain false a) := by
  cases a with
  | rest => exact absurd rfl hrest
  | operand text =>
    simp only [readArgument, addOperand?_plain]
    exact .ofOption _
  | short letters =>
    simp only [readArgument]
    rw [← List.append_nil letters]
    rcases readLetters_cases (u := u) (hshort letters rfl) with h | ⟨-, h⟩ | h
    · rw [h, h]
      exact .taken g
    · rw [h, h]
      exact .help
    · rw [h]
      exact .refused _
  | long name value =>
    simp only [readArgument]
    unfold readLong
    split
    · exact absurd rfl (hlong none)
    · exact absurd rfl (hlong (some _))
    · exact .refused _
    · exact .taken g
    · exact .help
    · rw [addFlag?_plain]
      exact .ofOption _

/-- The two readings of an argument lead to the same, if they do so for what follows it. -/
theorem read?_of_alike {a : String} {as bs : List String} {g : Given} {r : Option Given}
    (ha : Alike (u.readArgument g false (.of a)) (u.readArgument g.plain false (.of a)))
    (h : u.read? g false (a :: as) = some r)
    (hrest : ∀ g, u.read? g false as = some r → u.read? g.plain false bs = some (r.map Given.plain)) :
    u.read? g.plain false (a :: bs) = some (r.map Given.plain) := by
  rw [read?_cons] at h ⊢
  generalize u.readArgument g false (.of a) = x at ha h
  generalize u.readArgument g.plain false (.of a) = y at ha
  cases ha with
  | taken g' => exact hrest g' h
  | help =>
    cases h
    rfl
  | refused => cases h

/-- The option for the output adds its path to what has been read, or awaits it. -/
inductive Outputs (g : Given) : Bool → Advance → Prop where
  | taken {g' : Given} : g'.plain = g.plain → Outputs g false (.taken g')
  | awaiting : Outputs g true (.awaiting g)
  | refused (awaiting : Bool) : Outputs g awaiting .refused

theorem Outputs.ofOption (g : Given) (path : String) : Outputs g false (.ofOption (addOutput? g path)) := by
  cases h : addOutput? g path with
  | none => exact .refused _
  | some g' => exact .taken (addOutput?_plain h)

theorem outputs_readLetters (g : Given) (path : List Char) : Outputs g path.isEmpty (u.readLetters g ('o' :: path)) := by
  cases path with
  | nil =>
    show Outputs g true (if !u.hasOutput then .refused else .awaiting g)
    split
    · exact .refused _
    · exact .awaiting
  | cons c cs =>
    obtain ⟨text, htext⟩ : ∃ text, u.readLetters g ('o' :: c :: cs) =
        if !u.hasOutput then .refused else .ofOption (addOutput? g text) := by
      by_cases hc : c = '='
      · exact ⟨.ofList cs, by rw [hc, readLetters]⟩
      · exact ⟨.ofList (c :: cs), by simp [readLetters, hc]⟩
    rw [htext]
    split
    · exact .refused _
    · exact .ofOption _ _

theorem outputs_readLong (g : Given) (value : Option String) : Outputs g value.isNone (u.readLong g "output" value) := by
  cases value with
  | none =>
    show Outputs g true (if u.hasOutput then .awaiting g else .refused)
    split
    · exact .awaiting
    · exact .refused _
  | some path =>
    show Outputs g false (if u.hasOutput then .ofOption (addOutput? g path) else .refused)
    split
    · exact .ofOption _ _
    · exact .refused _

/-- What is read of the arguments of a command is read of them without the option for the output too, except for its path. -/
def ReadsPlain (u : Usage) (as : List String) : Prop :=
  ∀ g awaiting r, u.read? g awaiting as = some r → u.read? g.plain false (dropOutput awaiting as) = some (r.map Given.plain)

/-- What follows the option for the output is read without it too. -/
theorem read?_of_outputs {as : List String} {g : Given} {awaiting : Bool} {b : Advance} {r : Option Given} (hb : Outputs g awaiting b)
    (hrest : u.ReadsPlain as) (h : u.resume as b = some r) :
    u.read? g.plain false (dropOutput awaiting as) = some (r.map Given.plain) := by
  cases hb with
  | taken hplain =>
    rw [← hplain]
    exact hrest _ false r h
  | awaiting => exact hrest g true r h
  | refused => cases h

/-- Letters with that of the output among them are read up to it without the output. -/
theorem read?_of_letters {a : String} {as : List String} {g : Given} {kept path : List Char} {r : Option Given}
    (hof : Argument.of a = .short (kept ++ 'o' :: path)) (hkept : 'o' ∉ kept) (hrest : u.ReadsPlain as)
    (h : u.read? g false (a :: as) = some r) :
    u.read? g.plain false ((if kept.isEmpty then [] else [.ofList ('-' :: kept)]) ++ dropOutput path.isEmpty as) =
      some (r.map Given.plain) := by
  rw [read?_cons, hof, readArgument] at h
  have hfirst : ∀ g bs, kept ≠ [] → u.read? g false (.ofList ('-' :: kept) :: bs) = u.resume bs (u.readLetters g (kept ++ [])) := by
    intro g bs hne
    obtain ⟨c, cs, rfl⟩ := List.exists_cons_of_ne_nil hne
    rw [read?_cons, Argument.of_first_letters hof, List.append_nil]
    rfl
  rcases readLetters_cases (u := u) hkept with hpassed | ⟨hne, hhelp⟩ | hrefused
  · rw [hpassed] at h
    have hnext := read?_of_outputs (outputs_readLetters g path) hrest h
    by_cases hne : kept = []
    · simpa [hne] using hnext
    · rw [if_neg (by simpa using hne), List.singleton_append, hfirst _ _ hne, hpassed]
      exact hnext
  · rw [hhelp] at h
    cases h
    rw [if_neg (by simpa using hne), List.singleton_append, hfirst _ _ hne, hhelp]
    rfl
  · rw [hrefused] at h
    cases h

theorem readsPlain (as : List String) : u.ReadsPlain as := by
  induction as with
  | nil =>
    intro g awaiting r h
    cases awaiting with
    | true => cases h
    | false =>
      have hfinish : u.finish? g = some r := h
      show u.finish? g.plain = some (r.map Given.plain)
      rw [finish?_plain, hfinish]
      rfl
  | cons a as hrest =>
    intro g awaiting r h
    cases awaiting with
    | true =>
      rw [read?_cons] at h
      -- The argument is the path that the option waits for, and goes with it.
      show u.read? g.plain false (dropOutput false as) = some (r.map Given.plain)
      cases hof : Argument.of a with
      | operand path =>
        rw [hof] at h
        exact read?_of_outputs (.ofOption g path) hrest h
      | rest | long | short =>
        rw [hof] at h
        cases h
    | false =>
      rw [dropOutput]
      split
      · rename_i hof
        rw [read?_cons, hof] at h ⊢
        have hoperands : (u.addOperands? g as).bind u.finish? = some r := h
        show (u.addOperands? g.plain as).bind u.finish? = some (r.map Given.plain)
        rw [finish?_addOperands?_plain, hoperands]
        rfl
      · rename_i value hof
        rw [read?_cons, hof] at h
        exact read?_of_outputs (outputs_readLong g value) hrest h
      · rename_i letters hof
        dsimp only
        split
        · rename_i hdrop
          have hletters : 'o' ∉ letters := fun hmem => by simpa using List.dropWhile_eq_nil_iff.1 hdrop _ hmem
          refine read?_of_alike (alike_readArgument ?_ ?_ ?_ g) h fun g => hrest g false r
          all_goals simp_all
        · rename_i c path hdrop
          have hsplit : letters = letters.takeWhile (· != 'o') ++ c :: path := by
            rw [← hdrop, List.takeWhile_append_dropWhile]
          have hc : c = 'o' := by
            simpa [hdrop] using List.head?_dropWhile_not (· != 'o') letters
          rw [hc] at hsplit
          refine read?_of_letters (hsplit ▸ hof) (fun hmem => ?_) hrest h
          simpa using List.mem_takeWhile_imp hmem
      · rename_i name value hname hof
        refine read?_of_alike (alike_readArgument ?_ ?_ ?_ g) h fun g => hrest g false r
        all_goals simp_all
      · rename_i text hof
        refine read?_of_alike (alike_readArgument ?_ ?_ ?_ g) h fun g => hrest g false r
        all_goals simp_all

end Usage

namespace Request

theorem plain_of_usage? {command : String} {u : Usage} {request? : Given → Option Request} {g : Given} {request : Request}
    (h : usage? command = some (u, request?)) (hg : request? g = some request) : request? g.plain = some request.plain := by
  unfold usage? at h
  split at h
  all_goals
    first
    | cases h
      simp only [Given.plain] at hg ⊢
      split at hg
      · cases hg
        simp_all [plain]
      · cases hg
    | cases h

theorem helpOn?_dropOutput {as : List String} {request : Request} (h : helpOn? as = some request) :
    helpOn? (dropOutput false as) = some request.plain := by
  unfold helpOn? at h
  split at h
  · cases h
    rfl
  · split at h
    · cases h
      rename_i command hcommand
      have hkept : dropOutput false [command] = [command] := by
        rcases hcommand with rfl | hcommand
        · rfl
        · unfold usage? at hcommand
          split at hcommand
          · rfl
          · rfl
          · rfl
          · cases hcommand
      rw [hkept]
      exact if_pos hcommand
    · cases h
  · cases h

theorem ofCommand?_dropOutput {command : String} {as : List String} {request : Request} (h : ofCommand? command as = some request) :
    ofCommand? command (dropOutput false as) = some request.plain := by
  unfold ofCommand? at h ⊢
  split at h
  · rename_i hhelp
    rw [if_pos hhelp]
    exact helpOn?_dropOutput h
  · rename_i hhelp
    rw [if_neg hhelp]
    split at h
    · cases h
    · rename_i u request? husage
      split at h
      · cases h
      · rename_i hread
        cases h
        have hplain : u.read? {} false (dropOutput false as) = some none := u.readsPlain as _ _ _ hread
        simp only [hplain, plain]
      · rename_i g hread
        have hplain : u.read? {} false (dropOutput false as) = some (some g.plain) := u.readsPlain as _ _ _ hread
        simp only [hplain]
        exact plain_of_usage? husage h

/-- Letters before the command ask for nothing else than help or the version. -/
theorem eq_of_ofLetters?_eq_some {letters : List Char} {request : Request} (h : ofLetters? letters = some (some request)) :
    request = .help ∨ request = .version := by
  fun_induction ofLetters? letters with
  | case1 => cases h
  | case2 _ ih => exact ih h
  | case3 =>
    cases h
    exact .inl rfl
  | case4 =>
    cases h
    exact .inr rfl
  | case5 => cases h

/-- A command line without the option for the output asks for the same without the output. -/
theorem ofArguments?_withoutOutput {arguments : List String} {request : Request} (h : ofArguments? arguments = some request) :
    ofArguments? (withoutOutput arguments) = some request.plain := by
  induction arguments with
  | nil => cases h
  | cons a as ih =>
    rw [ofArguments?] at h
    rw [withoutOutput]
    split at h
    · rename_i command hof
      simp only [hof]
      rw [ofArguments?, hof]
      exact ofCommand?_dropOutput h
    · rename_i hof
      simp only [hof]
      rw [ofArguments?, hof]
      exact ih h
    · rename_i hof
      cases h
      simp only [hof]
      rw [ofArguments?, hof]
      rfl
    · rename_i hof
      cases h
      simp only [hof]
      rw [ofArguments?, hof]
      rfl
    · rename_i letters hof
      simp only [hof]
      rw [ofArguments?, hof]
      dsimp only
      split at h
      · cases h
      · rename_i hletters
        cases h
        rcases eq_of_ofLetters?_eq_some hletters with rfl | rfl <;> rfl
      · exact ih h
    · cases h

end Request

end Webform.Command
