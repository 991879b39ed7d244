import TemplateLexer.Settings.Arguments

/-!
# What arguments ask for

Each argument is a change of its own, but for `--file`, `-f` and `--`.  So is every option with a
name, but for the first of these (`Keyword.Writes.changes_cons`).  If it does not name a file it
gives no input, so options in front of an input leave it to be the only one
(`Settings.ofArguments_append`).

Arguments that are read name an input (`Settings.ofArguments_eq_ok_iff_applyAll`).  If they are
not read, one of them is the failure or an input is missing
(`Settings.cases_of_ofArguments_eq_error`).  An argument cannot be read by itself, or it is the
last one and its path is not there (`Change.cases_of_error_mem`).
-/

namespace TemplateLexer

/-- What a chain gives is what its second part gives of the first. -/
theorem exists_of_bind_eq_ok {ε α β : Type} {x : Except ε α} {f : α → Except ε β} {b : β}
    (gives : x >>= f = .ok b) : ∃ a, x = .ok a ∧ f a = .ok b := by
  cases x with
  | error e => cases gives
  | ok a => exact ⟨a, rfl, gives⟩

/-- A chain fails in its first part or in its second. -/
theorem cases_of_bind_eq_error {ε α β : Type} {x : Except ε α} {f : α → Except ε β} {e : ε}
    (fails : x >>= f = .error e) : x = .error e ∨ ∃ a, x = .ok a ∧ f a = .error e := by
  cases x with
  | error e' =>
      cases fails
      exact .inl rfl
  | ok a => exact .inr ⟨a, rfl, fails⟩

/-! ## Options by their names -/

namespace Keyword

/-- Whether an argument is an option of the name, with a value or without. -/
inductive Writes (k : Keyword) : Text → Prop where
  | alone : Writes k k.spelling
  | withValue (value : Text) : Writes k (k.spelling ++ '=' :: value)

theorem ofSpelling?_spelling (k : Keyword) : ofSpelling? k.spelling = some k := by
  cases k <;> decide

theorem spelling_inj {k k' : Keyword} (same : k.spelling = k'.spelling) : k = k' := by
  have read := ofSpelling?_spelling k
  rw [same, ofSpelling?_spelling, Option.some.injEq] at read
  exact read.symm

/-- No name has an equals sign in it. -/
theorem all_spelling (k : Keyword) : k.spelling.all (· ≠ '=') = true := by
  cases k <;> rfl

theorem takeWhile_spelling (k : Keyword) (rest : Text) :
    (k.spelling ++ rest).takeWhile (· ≠ '=') = k.spelling ++ rest.takeWhile (· ≠ '=') :=
  List.takeWhile_append_of_pos (List.all_eq_true.mp k.all_spelling)

theorem dropWhile_spelling (k : Keyword) (rest : Text) :
    (k.spelling ++ rest).dropWhile (· ≠ '=') = rest.dropWhile (· ≠ '=') :=
  List.dropWhile_append_of_pos (List.all_eq_true.mp k.all_spelling)

namespace Writes

variable {k : Keyword} {argument : Text}

/-- The name of an option is what precedes the equals sign. -/
theorem takeWhile_eq (writes : k.Writes argument) : argument.takeWhile (· ≠ '=') = k.spelling := by
  cases writes with
  | alone => simpa using k.takeWhile_spelling []
  | withValue value => simpa using k.takeWhile_spelling ('=' :: value)

/-- An option starts with two dashes and a letter. -/
theorem exists_eq (writes : k.Writes argument) : ∃ c t, argument = '-' :: '-' :: c :: t := by
  cases writes <;> cases k <;> exact ⟨_, _, rfl⟩

/-- An option is read by its name. -/
theorem ofArgument_eq (writes : k.Writes argument) :
    Change.ofArgument argument =
      Change.ofOption argument (some k) (argument.dropWhile (· ≠ '=')).tail? := by
  obtain ⟨c, t, form⟩ := writes.exists_eq
  rw [Change.ofArgument, if_neg (by simp [form]), if_neg (by simp [form]), writes.takeWhile_eq,
    ofSpelling?_spelling]

/-- Only the option of a file gives an input. -/
theorem ofArgument_ne_input (writes : k.Writes argument) (noFile : k ≠ .file) (i : Input)
    (written : Text) : Change.ofArgument argument ≠ .ok (.input i written) := by
  rw [writes.ofArgument_eq]
  intro same
  unfold Change.ofOption at same
  split at same <;> grind

theorem ne_of_ne_file (writes : k.Writes argument) (noFile : k ≠ .file) :
    argument ≠ Keyword.file.spelling := by
  rintro rfl
  exact noFile (spelling_inj (writes.takeWhile_eq.symm.trans Writes.alone.takeWhile_eq))

/-- An option is a change of its own, unless it takes the next argument as a path. -/
theorem changes_cons (writes : k.Writes argument) (noFile : argument ≠ Keyword.file.spelling)
    (rest : List Text) :
    Change.ofArguments false (argument :: rest) =
      Change.ofArgument argument :: Change.ofArguments false rest := by
  obtain ⟨c, t, form⟩ := writes.exists_eq
  have noDashes : argument ≠ ['-', '-'] := by simp [form]
  have noLetter : argument ≠ ['-', 'f'] := by simp [form]
  have noPath : Change.takesPath argument = false := by simp [Change.takesPath, noFile, noLetter]
  rw [Change.ofArguments.eq_def]
  simp only [if_neg noDashes, noPath]
  rfl

end Writes

end Keyword

/-! ## Changes in two parts -/

/-- The names of the options that give no input. -/
def optionNames : List Text :=
  ["--spans".toList, "--show-eof".toList, "--no-report".toList, "--name".toList,
    "--width".toList, "--color".toList]

/-- Whether all arguments are options that give no input, with a value or without.  Whether
the option is one that has a value is left open, and so is the value. -/
def AreOptions (arguments : List Text) : Prop :=
  ∀ a ∈ arguments, ∃ name ∈ optionNames, a = name ∨ ∃ value, a = name ++ '=' :: value

/-- The keyword of an option that gives no input. -/
theorem AreOptions.exists_writes {arguments : List Text} (areOptions : AreOptions arguments)
    {argument : Text} (member : argument ∈ arguments) :
    ∃ k, k ≠ Keyword.file ∧ k.Writes argument := by
  obtain ⟨name, known, written⟩ := areOptions argument member
  have isSpelling : ∃ k, k ≠ Keyword.file ∧ k.spelling = name := by
    simp only [optionNames, List.mem_cons, List.not_mem_nil, or_false] at known
    obtain rfl | rfl | rfl | rfl | rfl | rfl := known
    · exact ⟨.spans, nofun, rfl⟩
    · exact ⟨.showEnd, nofun, rfl⟩
    · exact ⟨.noReport, nofun, rfl⟩
    · exact ⟨.name, nofun, rfl⟩
    · exact ⟨.width, nofun, rfl⟩
    · exact ⟨.color, nofun, rfl⟩
  obtain ⟨k, noFile, rfl⟩ := isSpelling
  obtain rfl | ⟨value, rfl⟩ := written
  · exact ⟨k, noFile, .alone⟩
  · exact ⟨k, noFile, .withValue value⟩

/-- Options in front of other arguments are changes of their own. -/
theorem Change.ofArguments_append {options : List Text} (areOptions : AreOptions options)
    (rest : List Text) :
    ofArguments false (options ++ rest) = options.map ofArgument ++ ofArguments false rest := by
  induction options with
  | nil => rfl
  | cons argument options ih =>
      obtain ⟨k, noFile, writes⟩ := areOptions.exists_writes List.mem_cons_self
      have later := ih fun a member => areOptions a (List.mem_cons_of_mem _ member)
      rw [List.cons_append, writes.changes_cons (writes.ne_of_ne_file noFile), later,
        List.map_cons, List.cons_append]

namespace Settings

theorem applyAll_append (s : Settings) (changes later : List (Except Failure Change)) :
    s.applyAll (changes ++ later) = (do applyAll (← s.applyAll changes) later) := by
  induction changes generalizing s with
  | nil => rfl
  | cons change changes ih => simp only [List.cons_append, applyAll, bind_assoc, ih]

/-- A change that gives no input leaves the input. -/
theorem input?_of_apply {s s' : Settings} {change : Change} (applied : s.apply change = .ok s')
    (noInput : ∀ i written, change ≠ .input i written) : s'.input? = s.input? := by
  cases change with
  | input i written => exact absurd rfl (noInput i written)
  | _ => cases applied; rfl

theorem input?_of_applyAll {s s' : Settings} {changes : List (Except Failure Change)}
    (applied : s.applyAll changes = .ok s')
    (noInput : ∀ change ∈ changes, ∀ i written, change ≠ .ok (.input i written)) :
    s'.input? = s.input? := by
  induction changes generalizing s with
  | nil =>
      cases applied
      rfl
  | cons change changes ih =>
      obtain ⟨change, rfl, accepted⟩ := exists_of_bind_eq_ok applied
      obtain ⟨next, first, later⟩ := exists_of_bind_eq_ok accepted
      rw [ih later fun c member => noInput c (List.mem_cons_of_mem _ member)]
      exact input?_of_apply first fun i written same =>
        noInput _ List.mem_cons_self i written (congrArg Except.ok same)

/-- The settings with an input. -/
def withInput (s : Settings) (i : Input) : Settings := { s with input? := some i }

/-- Options in front of an input leave it to be the only one. -/
theorem ofArguments_append {options rest : List Text} {i : Input} {written : Text}
    (areOptions : AreOptions options)
    (gives : Change.ofArguments false rest = [.ok (.input i written)]) :
    ofArguments (options ++ rest) =
      (applyAll {} (options.map Change.ofArgument)).map (·.withInput i) := by
  rw [ofArguments, Change.ofArguments_append areOptions, applyAll_append, gives]
  cases applied : applyAll {} (options.map Change.ofArgument) with
  | error failure => rfl
  | ok s =>
      have none : s.input? = none := by
        refine input?_of_applyAll applied fun change member i written => ?_
        obtain ⟨argument, given, rfl⟩ := List.mem_map.mp member
        obtain ⟨k, noFile, writes⟩ := areOptions.exists_writes given
        exact writes.ofArgument_ne_input noFile i written
      simp only [applyAll, apply, none, bind, Except.bind]
      rfl

end Settings

/-! ## What can fail -/

/-- Whether a failure is at one of the arguments, and not that an input is missing. -/
def Failure.IsAtArgument (f : Failure) : Prop := f.inArguments = true ∧ f ≠ .missingInput

namespace Change

theorem isAtArgument_of_ofOption {argument : Text} {k? : Option Keyword} {value? : Option Text}
    {f : Failure} (fails : ofOption argument k? value? = .error f) : f.IsAtArgument := by
  unfold ofOption at fails
  split at fails <;> grind [Failure.IsAtArgument, Failure.inArguments]

theorem isAtArgument_of_ofArgument {argument : Text} {f : Failure}
    (fails : ofArgument argument = .error f) : f.IsAtArgument := by
  unfold ofArgument at fails
  split at fails
  · cases fails
  split at fails
  · cases fails
  · exact isAtArgument_of_ofOption fails

/-- Whether the last argument is an option that takes a path, which is not there. -/
def LacksPath (arguments : List Text) : Prop :=
  ∃ option, takesPath option = true ∧ arguments.getLast? = some option

theorem LacksPath.cons {rest : List Text} (lacks : LacksPath rest) (argument : Text) :
    LacksPath (argument :: rest) := by
  obtain ⟨option, takes, last⟩ := lacks
  refine ⟨option, takes, ?_⟩
  rw [List.getLast?_cons, last, Option.getD_some]

/-- What cannot be read is an argument that stands alone, or the path behind the last one. -/
theorem cases_of_error_mem {literal : Bool} {arguments : List Text} {f : Failure}
    (member : .error f ∈ ofArguments literal arguments) :
    (∃ argument, takesPath argument = false ∧ ofArgument argument = .error f) ∨
      LacksPath arguments ∧ f = .missingValue "--file".toList := by
  fun_induction ofArguments literal arguments with
  | case1 => cases member
  | case2 argument rest ih =>
      obtain same | later := List.mem_cons.mp member
      · cases same
      · exact (ih later).imp_right (.imp_left (·.cons argument))
  | case3 rest ih => exact (ih member).imp_right (.imp_left (·.cons _))
  | case4 option _ takes =>
      cases List.mem_singleton.mp member
      exact .inr ⟨⟨option, takes, rfl⟩, rfl⟩
  | case5 argument _ _ path rest ih =>
      obtain same | later := List.mem_cons.mp member
      · cases same
      · exact (ih later).imp_right (.imp_left fun lacks => (lacks.cons path).cons argument)
  | case6 argument rest _ noPath ih =>
      obtain same | later := List.mem_cons.mp member
      · exact .inl ⟨argument, Bool.eq_false_iff.mpr noPath, same.symm⟩
      · exact (ih later).imp_right (.imp_left (·.cons argument))

/-- What cannot be read among the changes is at an argument. -/
theorem isAtArgument_of_mem {literal : Bool} {arguments : List Text} {f : Failure}
    (member : .error f ∈ ofArguments literal arguments) : f.IsAtArgument := by
  obtain ⟨argument, -, fails⟩ | ⟨-, rfl⟩ := cases_of_error_mem member
  · exact isAtArgument_of_ofArgument fails
  · exact ⟨rfl, nofun⟩

end Change

namespace Settings

variable {s : Settings} {arguments : List Text} {f : Failure}

/-- A change that is refused gives a second input. -/
theorem exists_of_apply_eq_error {change : Change} (refused : s.apply change = .error f) :
    ∃ written, f = .unexpectedArgument written := by
  cases change with
  | input i written =>
      rw [apply] at refused
      split at refused
      · cases refused
        exact ⟨written, rfl⟩
      · cases refused
  | _ => cases refused

/-- Changes fail because one of them cannot be read, or because there is a second input. -/
theorem cases_of_applyAll_eq_error {changes : List (Except Failure Change)}
    (fails : s.applyAll changes = .error f) :
    .error f ∈ changes ∨ ∃ written, f = .unexpectedArgument written := by
  induction changes generalizing s with
  | nil => cases fails
  | cons change changes ih =>
      obtain rfl | ⟨change, rfl, accepted⟩ := cases_of_bind_eq_error fails
      · exact .inl List.mem_cons_self
      obtain refused | ⟨next, -, later⟩ := cases_of_bind_eq_error accepted
      · exact .inr (exists_of_apply_eq_error refused)
      · exact (ih later).imp_left (List.mem_cons_of_mem _)

/-! ## Asking for an input -/

/-- Settings are read if the changes are made and an input is among them. -/
theorem ofArguments_eq_ok_iff_applyAll :
    ofArguments arguments = .ok s ↔
      applyAll {} (Change.ofArguments false arguments) = .ok s ∧ ∃ i, s.input? = some i := by
  constructor
  · intro read
    obtain ⟨made, applied, kept⟩ := exists_of_bind_eq_ok read
    cases given : made.input? with
    | none =>
        rw [given] at kept
        cases kept
    | some i =>
        rw [given] at kept
        cases kept
        exact ⟨applied, i, given⟩
  · rintro ⟨applied, i, given⟩
    rw [ofArguments, applied]
    simp only [bind, Except.bind, given]
    rfl

/-- An input is missing if the changes are made and none is among them. -/
theorem ofArguments_of_input?_eq_none
    (applied : applyAll {} (Change.ofArguments false arguments) = .ok s) (none : s.input? = none) :
    ofArguments arguments = .error .missingInput := by
  rw [ofArguments, applied]
  simp only [bind, Except.bind, none]
  rfl

/-- Arguments are not read because one of them fails, or because an input is missing. -/
theorem cases_of_ofArguments_eq_error (fails : ofArguments arguments = .error f) :
    applyAll {} (Change.ofArguments false arguments) = .error f ∧ f.IsAtArgument ∨
      f = .missingInput ∧
        ∃ s, applyAll {} (Change.ofArguments false arguments) = .ok s ∧ s.input? = none := by
  obtain fails | ⟨s, applied, fails⟩ := cases_of_bind_eq_error fails
  · refine .inl ⟨fails, ?_⟩
    obtain member | ⟨written, rfl⟩ := cases_of_applyAll_eq_error fails
    · exact Change.isAtArgument_of_mem member
    · exact ⟨rfl, nofun⟩
  · cases given : s.input? with
    | none =>
        rw [given] at fails
        cases fails
        exact .inr ⟨rfl, s, applied, given⟩
    | some i =>
        rw [given] at fails
        cases fails

end Settings

end TemplateLexer
