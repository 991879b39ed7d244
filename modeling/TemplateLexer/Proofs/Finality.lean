import TemplateLexer.Proofs.Meaning

/-!
# Failures that are final

More arguments can put a failure right only at the end of the arguments: they can give an input
that is missing, or a path to the option that is last (`Failure.IsOpen`).  Any other failure
remains, whatever comes behind (`Settings.ofArguments_append_of_error`).

* `isOpen_of_missingValue`: that an option of a file has no path is said at the end only.
* `ofArguments_eq_missingInput_iff`: an input is missing if nothing else is wrong.
* `ofArguments_isFinal`: these, and that the shortest arguments with a failure decide on it.
-/

namespace TemplateLexer

/-- A list that has a property begins with a shortest list that has it. -/
theorem exists_shortest {α : Type} {P : List α → Prop} {whole : List α} (holds : P whole) :
    ∃ first, first <+: whole ∧ P first ∧ ∀ front, front <+: whole → P front → first <+: front := by
  by_cases shorter : ∃ part, part <+: whole ∧ part ≠ whole ∧ P part
  · obtain ⟨part, isPrefix, other, holds⟩ := shorter
    have : part.length < whole.length :=
      Nat.lt_of_le_of_ne isPrefix.length_le fun same => other (isPrefix.eq_of_length same)
    obtain ⟨first, before, first_holds, least⟩ := exists_shortest holds
    refine ⟨first, before.trans isPrefix, first_holds, fun front isFront holds => ?_⟩
    obtain inside | beyond := List.prefix_or_prefix_of_prefix isFront isPrefix
    · exact least front inside holds
    · exact before.trans beyond
  · refine ⟨whole, List.prefix_refl whole, holds, fun front isFront holds => ?_⟩
    obtain rfl : front = whole :=
      Classical.not_not.mp fun other => shorter ⟨front, isFront, other, holds⟩
    exact List.prefix_refl front
termination_by whole.length

/-- Whether more arguments behind some can put their failure right. -/
inductive Failure.IsOpen (arguments : List Text) : Failure → Prop where
  | noInput : IsOpen arguments .missingInput
  /-- The last argument is an option of a file. -/
  | noPath {option : Text} (takesPath : option ∈ Group.pathOptions)
      (last : arguments.getLast? = some option) :
      IsOpen arguments (.missingValue "--file".toList)

/-! ## A path that is missing -/

namespace Change

/-- A value is missing of the option that stands without one. -/
theorem eq_of_ofOption_eq_missingValue {argument option : Text} {k? : Option Keyword}
    {value? : Option Text} (fails : ofOption argument k? value? = .error (.missingValue option)) :
    value? = none ∧ ∃ k, k? = some k ∧ option = k.spelling := by
  cases k? with
  | none => cases fails
  | some k =>
      cases value? with
      | none =>
          cases k with
          | spans | showEnd | noReport => cases fails
          | file | name | width | color =>
              cases fails
              exact ⟨rfl, _, rfl, rfl⟩
      | some value =>
          cases k with
          | width | color =>
              simp only [ofOption] at fails
              split at fails <;> cases fails
          | spans | showEnd | noReport | file | name => cases fails

/-- An argument without the value that it needs is the name of an option. -/
theorem ofArgument_eq_missingValue {argument option : Text}
    (fails : ofArgument argument = .error (.missingValue option)) : argument = option := by
  unfold ofArgument at fails
  split at fails
  · cases fails
  split at fails
  · cases fails
  obtain ⟨noValue, k, known, rfl⟩ := eq_of_ofOption_eq_missingValue fails
  have split : argument.takeWhile (· ≠ '=') ++ argument.dropWhile (· ≠ '=') = argument :=
    List.takeWhile_append_dropWhile
  have noRest : argument.dropWhile (· ≠ '=') = [] := by
    cases rest : argument.dropWhile (· ≠ '=') with
    | nil => rfl
    | cons c value =>
        rw [rest] at noValue
        cases noValue
  rw [noRest, List.append_nil] at split
  rw [← split, Keyword.spelling_of_ofSpelling? known]

end Change

namespace Settings

variable {s : Settings} {arguments : List Text} {f : Failure}

/-- A path can be missing of the last argument only. -/
theorem isOpen_of_missingValue
    (fails : ofArguments arguments = .error (.missingValue "--file".toList)) :
    (Failure.missingValue "--file".toList).IsOpen arguments := by
  obtain ⟨fails, -⟩ | ⟨other, -⟩ := cases_of_ofArguments_eq_error fails
  · obtain member | ⟨written, other⟩ := cases_of_applyAll_eq_error fails
    · obtain ⟨argument, alone, fails⟩ | ⟨⟨option, takes, last⟩, -⟩ :=
        Change.cases_of_error_mem member
      · rw [Change.ofArgument_eq_missingValue fails] at alone
        exact absurd alone (by decide)
      · rw [Group.takesPath_eq] at takes
        exact .noPath (List.contains_iff_mem.mp takes) last
    · cases other
  · cases other

/-! ## What comes behind a failure -/

/-- If the changes of the first groups fail, so do all arguments. -/
theorem ofArguments_of_applyAll_eq_error {gs later : List Group}
    (fails : applyAll {} (gs.flatMap Group.changes) = .error f)
    (split : Group.ofArguments arguments = gs ++ later) : ofArguments arguments = .error f := by
  rw [ofArguments, Change.ofArguments_eq, split, List.flatMap_append, applyAll_append, fails]
  rfl

/-- A failure remains, unless it is one that more arguments can put right. -/
theorem ofArguments_append_of_error (fails : ofArguments arguments = .error f)
    (final : ¬ f.IsOpen arguments) (more : List Text) :
    ofArguments (arguments ++ more) = .error f := by
  obtain ⟨fails, -⟩ | ⟨rfl, -⟩ := cases_of_ofArguments_eq_error fails
  · rw [Change.ofArguments_eq] at fails
    cases Group.ofArguments_ends arguments with
    | complete further adds => exact ofArguments_of_applyAll_eq_error fails (adds more)
    | @pathMissing front option takesPath split groups adds =>
        rw [groups, List.flatMap_append, applyAll_append] at fails
        obtain before | ⟨s, -, last⟩ := cases_of_bind_eq_error fails
        · rw [split, List.append_assoc]
          exact ofArguments_of_applyAll_eq_error before (adds _)
        · cases last
          exact absurd (.noPath takesPath (split ▸ List.getLast?_concat)) final
  · exact absurd .noInput final

/-! ## An input that is missing -/

/-- An input is missing if every group is well formed and none of them gives an input. -/
theorem ofArguments_eq_missingInput_iff :
    ofArguments arguments = .error .missingInput ↔
      (∀ g ∈ Group.ofArguments arguments, g.IsWellFormed) ∧
        ∀ g ∈ Group.ofArguments arguments, ¬ g.GivesInput := by
  constructor
  · intro fails
    obtain ⟨-, -, other⟩ | ⟨-, s, applied, none⟩ := cases_of_ofArguments_eq_error fails
    · exact absurd rfl other
    rw [Change.ofArguments_eq] at applied
    obtain ⟨cs, read⟩ := exists_map_of_applyAll applied
    rw [read] at applied
    have spell := Group.spell_iff.mpr read
    have noInput : cs.filterMap Change.input? = [] := by
      rw [← (applyAll_eq_ok_iff.mp applied).inputs, none, Option.toList_none]
    exact ⟨Group.exists_spell_iff.mp ⟨cs, spell⟩, spell.filterMap_input?_eq_nil_iff.mp noInput⟩
  · rintro ⟨wellFormed, noneGives⟩
    obtain ⟨cs, spell⟩ := Group.exists_spell_iff.mpr wellFormed
    have noInput := spell.filterMap_input?_eq_nil_iff.mpr noneGives
    have few : (cs.filterMap Change.input?).length ≤ 1 := by
      rw [noInput]
      exact Nat.zero_le 1
    obtain ⟨s, asked⟩ := exists_isAskedBy few
    have applied := applyAll_eq_ok_iff.mpr asked
    rw [← Group.spell_iff.mp spell, ← Change.ofArguments_eq] at applied
    refine ofArguments_of_input?_eq_none applied ?_
    simpa [noInput] using asked.inputs

/-! ## The first arguments that have a failure -/

/-- Whether some arguments are read, or have a failure that more of them can put right. -/
def CanGoOn (arguments : List Text) : Prop :=
  (∃ s, ofArguments arguments = .ok s) ∨
    ∃ f, ofArguments arguments = .error f ∧ f.IsOpen arguments

/-- What is shorter than the shortest arguments with a failure can go on. -/
theorem canGoOn_of_front {first front : List Text} (fails : ofArguments first = .error f)
    (least : ofArguments front = .error f → first <+: front) (before : front <+: first)
    (shorter : front ≠ first) : CanGoOn front := by
  cases read : ofArguments front with
  | ok s => exact .inl ⟨s, read⟩
  | error f' =>
      refine .inr ⟨f', read, Classical.not_not.mp fun final => ?_⟩
      obtain ⟨more, rfl⟩ := before
      have remains := ofArguments_append_of_error read final more
      obtain rfl : f = f' := Except.error.inj (fails.symm.trans remains)
      exact shorter ((List.prefix_append front more).eq_of_length_le (least read).length_le)

/-- What fails for good.

A failure that more arguments cannot put right remains, whatever they are.  It is decided by the
shortest arguments that have it: it comes from any arguments that begin with these, and shorter
ones can go on.  An input is missing if every group is well formed and none gives an input. -/
theorem ofArguments_isFinal (arguments : List Text) :
    (∀ f, ofArguments arguments = .error f → ¬ f.IsOpen arguments →
      (∀ more, ofArguments (arguments ++ more) = .error f) ∧
      ∃ first, first <+: arguments ∧ ofArguments first = .error f ∧
        (∀ more, ofArguments (first ++ more) = .error f) ∧
        (∀ front, front <+: arguments → ofArguments front = .error f → first <+: front) ∧
        ∀ front, front <+: first → front ≠ first → CanGoOn front) ∧
    (ofArguments arguments = .error .missingInput ↔
      (∀ g ∈ Group.ofArguments arguments, g.IsWellFormed) ∧
        ∀ g ∈ Group.ofArguments arguments, ¬ g.GivesInput) := by
  refine ⟨fun f fails final => ?_, ofArguments_eq_missingInput_iff⟩
  obtain ⟨first, before, first_fails, least⟩ :=
    @exists_shortest _ (ofArguments · = .error f) _ fails
  -- The failure says whether it is open, so it is final for the shortest arguments as well.
  have first_final : ¬ f.IsOpen first := by
    intro isOpen
    cases isOpen with
    | noInput => exact final .noInput
    | noPath => exact final (isOpen_of_missingValue fails)
  refine ⟨ofArguments_append_of_error fails final, first, before, first_fails,
    ofArguments_append_of_error first_fails first_final, least, fun front isFront => ?_⟩
  exact canGoOn_of_front first_fails (least front (isFront.trans before)) isFront

/-- A width that is no number is the failure, even if an option behind it has no path. -/
theorem ofArguments_isFinal_of_width :
    let arguments : List Text := ["-f".toList, "--".toList, "--width=-1".toList, "-f".toList]
    let f : Failure :=
      .invalidValue "--width".toList "-1".toList "a non-negative integer".toList
    ofArguments arguments = .error f ∧ ¬ f.IsOpen arguments ∧
      ∀ more, ofArguments (arguments ++ more) = .error f := by
  intro arguments f
  have fails : ofArguments arguments = .error f := by rfl
  have final : ¬ f.IsOpen arguments := by
    unfold f
    nofun
  exact ⟨fails, final, ((ofArguments_isFinal arguments).1 f fails final).1⟩

end Settings

end TemplateLexer
