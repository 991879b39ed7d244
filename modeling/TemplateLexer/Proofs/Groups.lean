import TemplateLexer.Settings.Arguments

/-!
# Groups of arguments

An argument that names no file is read alone.  `--file` and `-f` are read together with the
argument behind them, whatever that is.  Behind `--` every argument is a template.  So the
arguments fall into *groups*, from left to right, and nothing is lost
(`Group.flatMap_arguments_ofArguments`).

* `Change.ofArguments_eq`: the changes of some arguments are those of their groups.
* `Group.ofArguments_flatMap_append`: groups that can stand before others are groups there.
* `Group.ofArguments_ends`: arguments behind others do not change the groups of these,
  except that they give a path to an option without one.
-/

namespace TemplateLexer

/-- Arguments that are read together. -/
inductive Group where
  /-- Two dashes. -/
  | dashes
  /-- An option of a file and the argument behind it. -/
  | fileAt (option path : Text)
  /-- An option of a file with nothing behind it. -/
  | fileOnly (option : Text)
  /-- An argument that is read alone. -/
  | alone (argument : Text)
  /-- An argument behind two dashes. -/
  | literal (t : Text)
deriving DecidableEq, Repr

namespace Group

/-- The options that are read together with the argument behind them. -/
def pathOptions : List Text := ["--file".toList, "-f".toList]

theorem takesPath_eq (argument : Text) :
    Change.takesPath argument = pathOptions.contains argument := by
  have same : pathOptions = [Keyword.file.spelling, ['-', 'f']] := rfl
  simp [Change.takesPath, same]

/-! ## Splitting arguments -/

/-- The groups of some arguments, from left to right. -/
def ofArguments : List Text → List Group
  | [] => []
  | argument :: rest =>
      if argument = ['-', '-'] then .dashes :: rest.map .literal
      else if pathOptions.contains argument then
        match rest with
        | [] => [.fileOnly argument]
        | path :: rest => .fileAt argument path :: ofArguments rest
      else .alone argument :: ofArguments rest

/-- The arguments of a group. -/
def arguments : Group → List Text
  | dashes => [['-', '-']]
  | fileAt option path => [option, path]
  | fileOnly option => [option]
  | alone argument => [argument]
  | literal t => [t]

theorem flatMap_arguments_literal (ts : List Text) :
    (ts.map literal).flatMap arguments = ts := by
  induction ts with
  | nil => rfl
  | cons t ts ih => rw [List.map_cons, List.flatMap_cons, ih, arguments, List.singleton_append]

/-- The groups make up the arguments. -/
theorem flatMap_arguments_ofArguments (arguments : List Text) :
    (ofArguments arguments).flatMap Group.arguments = arguments := by
  fun_induction ofArguments arguments with
  | case1 => rfl
  | case2 rest => rw [List.flatMap_cons, flatMap_arguments_literal]; rfl
  | case3 => rfl
  | case4 option _ _ path rest ih => rw [List.flatMap_cons, ih]; rfl
  | case5 argument rest _ _ ih => rw [List.flatMap_cons, ih]; rfl

/-! ## Groups before others -/

/-- Whether a group can stand before others.  An option of a file has its path there, and two
dashes have not come yet. -/
inductive IsWhole : Group → Prop where
  | fileAt {option : Text} (takesPath : option ∈ pathOptions) (path : Text) :
      IsWhole (.fileAt option path)
  | alone {argument : Text} (noDashes : argument ≠ ['-', '-']) (noPath : argument ∉ pathOptions) :
      IsWhole (.alone argument)

theorem ofArguments_dashes_cons (rest : List Text) :
    ofArguments (['-', '-'] :: rest) = .dashes :: rest.map .literal := by
  rw [ofArguments.eq_def]
  exact if_pos rfl

theorem ofArguments_arguments_append {g : Group} (whole : g.IsWhole) (rest : List Text) :
    ofArguments (g.arguments ++ rest) = g :: ofArguments rest := by
  cases whole with
  | @fileAt option takesPath path =>
      have noDashes : option ≠ ['-', '-'] := by
        rintro rfl
        exact absurd takesPath (by decide)
      simp only [arguments, List.cons_append, List.nil_append, ofArguments, if_neg noDashes,
        if_pos (List.contains_iff_mem.mpr takesPath)]
  | alone noDashes noPath =>
      rw [arguments, List.singleton_append, ofArguments.eq_def]
      simp only [if_neg noDashes, if_neg (mt List.contains_iff_mem.mp noPath)]

/-- Groups that can stand before others are groups there. -/
theorem ofArguments_flatMap_append {gs : List Group} (whole : ∀ g ∈ gs, g.IsWhole)
    (rest : List Text) :
    ofArguments (gs.flatMap arguments ++ rest) = gs ++ ofArguments rest := by
  induction gs with
  | nil => rfl
  | cons g gs ih =>
      obtain ⟨first, later⟩ := List.forall_mem_cons.mp whole
      rw [List.flatMap_cons, List.append_assoc, ofArguments_arguments_append first, ih later,
        List.cons_append]

/-! ## Groups behind others -/

/-- How some arguments end, as more of them come behind. -/
inductive Ends (arguments : List Text) : Prop where
  /-- Their groups are there already. -/
  | complete (further : List Text → List Group)
      (adds : ∀ more, ofArguments (arguments ++ more) = ofArguments arguments ++ further more)
  /-- The last one is an option of a file, which takes the next one as its path. -/
  | pathMissing {front : List Text} {option : Text} (takesPath : option ∈ pathOptions)
      (split : arguments = front ++ [option])
      (groups : ofArguments arguments = ofArguments front ++ [.fileOnly option])
      (adds : ∀ more, ofArguments (front ++ more) = ofArguments front ++ ofArguments more)

theorem Ends.arguments_append {g : Group} {arguments : List Text} (whole : g.IsWhole)
    (ends : Ends arguments) : Ends (g.arguments ++ arguments) := by
  have first := ofArguments_arguments_append whole
  cases ends with
  | complete further adds =>
      refine .complete further fun more => ?_
      rw [List.append_assoc, first, first, adds, List.cons_append]
  | @pathMissing front option takesPath split groups adds =>
      refine @Ends.pathMissing _ (g.arguments ++ front) option takesPath ?_ ?_ fun more => ?_
      · rw [split, List.append_assoc]
      · rw [first, first, groups, List.cons_append]
      · rw [List.append_assoc, first, first, adds, List.cons_append]

theorem ofArguments_ends (arguments : List Text) : Ends arguments := by
  fun_induction ofArguments arguments with
  | case1 => exact .complete ofArguments fun more => rfl
  | case2 rest =>
      refine .complete (List.map literal) fun more => ?_
      rw [List.cons_append, ofArguments_dashes_cons, ofArguments_dashes_cons, List.map_append,
        List.cons_append]
  | case3 option noDashes takesPath =>
      refine @Ends.pathMissing _ [] option (List.contains_iff_mem.mp takesPath) rfl ?_ fun _ => rfl
      simp only [ofArguments, if_neg noDashes, if_pos takesPath]
      rfl
  | case4 option noDashes takesPath path rest ih =>
      exact ih.arguments_append (.fileAt (List.contains_iff_mem.mp takesPath) path)
  | case5 argument rest noDashes noPath ih =>
      exact ih.arguments_append (.alone noDashes (mt List.contains_iff_mem.mpr noPath))

/-! ## Reading groups -/

/-- What is read of a group. -/
def changes : Group → List (Except Failure Change)
  | dashes => []
  | fileAt _ path => [.ok (.input (.ofPath path) path)]
  | fileOnly _ => [.error (.missingValue "--file".toList)]
  | alone argument => [Change.ofArgument argument]
  | literal t => [.ok (.input (.text t) t)]

end Group

theorem Change.ofArguments_true (ts : List Text) :
    ofArguments true ts = (ts.map Group.literal).flatMap Group.changes := by
  induction ts with
  | nil => rfl
  | cons t ts ih => rw [ofArguments, ih, List.map_cons, List.flatMap_cons]; rfl

/-- The changes of some arguments are those of their groups. -/
theorem Change.ofArguments_eq (arguments : List Text) :
    ofArguments false arguments = (Group.ofArguments arguments).flatMap Group.changes := by
  fun_induction Group.ofArguments arguments with
  | case1 => rfl
  | case2 rest =>
      rw [ofArguments.eq_def, List.flatMap_cons, Group.changes, List.nil_append, ← ofArguments_true]
      exact if_pos rfl
  | case3 option noDashes isOption =>
      simp only [ofArguments, if_neg noDashes, Group.takesPath_eq, if_pos isOption]
      rfl
  | case4 option noDashes isOption path rest ih =>
      simp only [ofArguments, if_neg noDashes, Group.takesPath_eq, if_pos isOption, ih]
      rfl
  | case5 argument rest noDashes noOption ih =>
      rw [ofArguments.eq_def]
      simp only [if_neg noDashes, Group.takesPath_eq, if_neg noOption, ih]
      rfl

end TemplateLexer
