import TemplateLexer.Proofs.Spelling

/-!
# What arguments mean

Changes are made in the order of the arguments, but their order matters little.  An option
without a value holds if it is there, an option with one has the last value, and there is one
input (`Settings.IsAskedBy`).  One change keeps this (`IsAskedBy.apply`), so all of them do
(`IsAskedBy.applyAll`), and nothing but a second input can be refused
(`IsAskedBy.exists_applyAll`).  Since it determines the settings (`IsAskedBy.unique`), settings
are read if and only if it holds of them.

* `ofArguments_eq_ok_iff`: which settings some arguments ask for, without the order of changes.
* `ofArguments_of_perm`: groups can be permuted, if the values of each option stay in order.
* `ofArguments_isMeant`: both of these and when there are settings at all.
-/

namespace TemplateLexer

namespace Settings

variable {s s' : Settings} {c : Change} {cs cs' : List Change} {arguments arguments' : List Text}

/-- Whether settings are what some changes ask for. -/
structure IsAskedBy (s : Settings) (cs : List Change) : Prop where
  spans : s.spans = true ↔ .spans ∈ cs
  showEnd : s.showEnd = true ↔ .showEnd ∈ cs
  report : s.report = true ↔ .noReport ∉ cs
  /-- The last name is taken, or the default. -/
  name : s.name = (cs.filterMap Change.name?).getLast?.getD "number lexer".toList
  width : s.width = (cs.filterMap Change.width?).getLast?.getD 10
  color : s.color = (cs.filterMap Change.color?).getLast?.getD .auto
  /-- There is at most one input. -/
  inputs : s.input?.toList = cs.filterMap Change.input?

/-! ## Making changes -/

/-- One more change asks for what it makes of the settings. -/
theorem IsAskedBy.apply (asked : s.IsAskedBy cs) (applied : s.apply c = .ok s') :
    s'.IsAskedBy (cs ++ [c]) := by
  obtain ⟨spans, showEnd, report, name, width, color, inputs⟩ := asked
  cases c with
  | input i written =>
      simp only [Settings.apply] at applied
      split at applied
      next => cases applied
      next free =>
        cases applied
        rw [Bool.not_eq_true, Option.isSome_eq_false_iff, Option.isNone_iff_eq_none] at free
        rw [free, Option.toList_none] at inputs
        constructor <;> simp_all [Change.name?, Change.width?, Change.color?, Change.input?]
  | _ =>
      cases applied
      constructor <;> simp_all [Change.name?, Change.width?, Change.color?, Change.input?]

theorem applyAll_ok_cons (s : Settings) (c : Change) (rest : List (Except Failure Change)) :
    s.applyAll (.ok c :: rest) = (do applyAll (← s.apply c) rest) := rfl

theorem isAskedBy_nil : ({} : Settings).IsAskedBy [] := by
  constructor <;> simp [Token.defaultWidth]

/-- More changes ask for what they make of the settings. -/
theorem IsAskedBy.applyAll (asked : s.IsAskedBy cs)
    (applied : s.applyAll (cs'.map .ok) = .ok s') : s'.IsAskedBy (cs ++ cs') := by
  induction cs' generalizing s cs with
  | nil =>
      cases applied
      rwa [List.append_nil]
  | cons c cs' ih =>
      rw [List.map_cons, applyAll_ok_cons] at applied
      obtain ⟨next, first, later⟩ := exists_of_bind_eq_ok applied
      rw [List.append_cons]
      exact ih (asked.apply first) later

/-- A change is made unless it gives a second input. -/
theorem exists_apply (s : Settings) (c : Change) :
    (∃ s', s.apply c = .ok s') ∨ ∃ i i', s.input? = some i ∧ c.input? = some i' := by
  cases c with
  | input i' written =>
      cases given : s.input? with
      | none =>
          refine .inl ⟨s.withInput i', ?_⟩
          rw [Settings.apply, given]
          rfl
      | some i => exact .inr ⟨i, i', rfl, rfl⟩
  | _ => exact .inl ⟨_, rfl⟩

/-- Changes are made if they give no second input. -/
theorem IsAskedBy.exists_applyAll (asked : s.IsAskedBy cs)
    (few : ((cs ++ cs').filterMap Change.input?).length ≤ 1) :
    ∃ s', s.applyAll (cs'.map .ok) = .ok s' := by
  induction cs' generalizing s cs with
  | nil => exact ⟨s, rfl⟩
  | cons c cs' ih =>
      obtain ⟨next, first⟩ | ⟨i, i', given, again⟩ := exists_apply s c
      · rw [List.append_cons] at few
        obtain ⟨s', later⟩ := ih (asked.apply first) few
        exact ⟨s', by rw [List.map_cons, applyAll_ok_cons, first]; exact later⟩
      · rw [List.filterMap_append, ← asked.inputs, given, List.filterMap_cons_some again,
          List.length_append, List.length_cons, Option.toList_some, List.length_singleton] at few
        omega

/-- Changes ask for one thing only. -/
theorem IsAskedBy.unique (asked : s.IsAskedBy cs) (asked' : s'.IsAskedBy cs) : s = s' := by
  have spans : s.spans = s'.spans := Bool.eq_iff_iff.mpr (asked.spans.trans asked'.spans.symm)
  have showEnd : s.showEnd = s'.showEnd :=
    Bool.eq_iff_iff.mpr (asked.showEnd.trans asked'.showEnd.symm)
  have report : s.report = s'.report := Bool.eq_iff_iff.mpr (asked.report.trans asked'.report.symm)
  have name : s.name = s'.name := asked.name.trans asked'.name.symm
  have width : s.width = s'.width := asked.width.trans asked'.width.symm
  have color : s.color = s'.color := asked.color.trans asked'.color.symm
  have input : s.input? = s'.input? := by
    simpa using congrArg List.head? (asked.inputs.trans asked'.inputs.symm)
  cases s
  cases s'
  simp_all

/-- Settings are made by changes if these ask for them. -/
theorem applyAll_eq_ok_iff : applyAll {} (cs.map .ok) = .ok s ↔ s.IsAskedBy cs := by
  constructor
  · exact isAskedBy_nil.applyAll
  · intro asked
    have few : (([] ++ cs).filterMap Change.input?).length ≤ 1 := by
      rw [List.nil_append, ← asked.inputs]
      cases s.input? <;> simp
    obtain ⟨s', applied⟩ := isAskedBy_nil.exists_applyAll few
    rw [applied, asked.unique (isAskedBy_nil.applyAll applied)]

/-- Changes ask for something if they give no second input. -/
theorem exists_isAskedBy (few : (cs.filterMap Change.input?).length ≤ 1) :
    ∃ s, IsAskedBy s cs := by
  obtain ⟨s, applied⟩ := isAskedBy_nil.exists_applyAll few
  exact ⟨s, applyAll_eq_ok_iff.mp applied⟩

/-- Only changes without a failure among them are all made. -/
theorem exists_map_of_applyAll {changes : List (Except Failure Change)}
    (applied : s.applyAll changes = .ok s') : ∃ cs : List Change, changes = cs.map .ok := by
  induction changes generalizing s with
  | nil => exact ⟨[], rfl⟩
  | cons change changes ih =>
      obtain ⟨c, rfl, accepted⟩ := exists_of_bind_eq_ok applied
      obtain ⟨next, -, later⟩ := exists_of_bind_eq_ok accepted
      obtain ⟨cs, rfl⟩ := ih later
      exact ⟨c :: cs, rfl⟩

/-! ## Reading settings -/

/-- Settings are read if they are what the changes of the groups ask for, with an input. -/
theorem ofArguments_eq_ok_iff :
    ofArguments arguments = .ok s ↔
      ∃ cs i, Group.Spell (Group.ofArguments arguments) cs ∧
        cs.filterMap Change.input? = [i] ∧ s.IsAskedBy cs := by
  rw [ofArguments_eq_ok_iff_applyAll, Change.ofArguments_eq]
  constructor
  · rintro ⟨applied, i, given⟩
    obtain ⟨cs, read⟩ := exists_map_of_applyAll applied
    rw [read] at applied
    have asked := applyAll_eq_ok_iff.mp applied
    exact ⟨cs, i, Group.spell_iff.mpr read, by rw [← asked.inputs, given]; rfl, asked⟩
  · rintro ⟨cs, i, spell, one, asked⟩
    rw [Group.spell_iff.mp spell]
    have given := asked.inputs.trans one
    exact ⟨applyAll_eq_ok_iff.mpr asked, i, Option.toList_eq_singleton_iff.mp given⟩

end Settings

/-! ## The order of groups -/

namespace Group

/-- The value that a group gives to an option, which is named up to its equals sign. -/
def value? (option : Text) : Group → Option Text
  | .alone argument =>
      if option.isPrefixOf argument then some (argument.drop option.length) else none
  | _ => none

/-- A template in front of `--` is no option, since it does not start with a dash. -/
theorem value?_of_head? {option t : Text} (dash : option.head? = some '-')
    (noDash : t.head? ≠ some '-') : (alone t).value? option = none := by
  refine if_neg fun starts => ?_
  obtain ⟨value, rfl⟩ := List.isPrefixOf_iff_prefix.mp starts
  exact noDash (by rw [List.head?_append, dash]; rfl)

theorem Writes.name?_eq {g : Group} {c : Change} (writes : g.Writes c) :
    c.name? = g.value? "--name=".toList := by
  cases writes with
  | text noDash => rw [value?_of_head? rfl noDash]; rfl
  | _ => rfl

theorem Writes.width?_eq {g : Group} {c : Change} (writes : g.Writes c) :
    c.width? = (g.value? "--width=".toList).bind (Text.readDecimal? Offset.limit) := by
  cases writes with
  | text noDash => rw [value?_of_head? rfl noDash]; rfl
  | width isDecimal fits => exact (Text.readDecimal?_eq_some_iff.mpr ⟨isDecimal, fits⟩).symm
  | _ => rfl

theorem Writes.color?_eq {g : Group} {c : Change} (writes : g.Writes c) :
    c.color? = (g.value? "--color=".toList).bind Coloring.ofWord? := by
  cases writes with
  | text noDash => rw [value?_of_head? rfl noDash]; rfl
  | _ => rfl

end Group

namespace Settings

variable {s : Settings} {cs cs' : List Change} {arguments arguments' : List Text}

/-- Changes ask for the same in another order, if the values for each option stay in theirs. -/
theorem IsAskedBy.perm (asked : s.IsAskedBy cs) (perm : cs.Perm cs')
    (names : cs.filterMap Change.name? = cs'.filterMap Change.name?)
    (widths : cs.filterMap Change.width? = cs'.filterMap Change.width?)
    (colors : cs.filterMap Change.color? = cs'.filterMap Change.color?) : s.IsAskedBy cs' where
  spans := asked.spans.trans perm.mem_iff
  showEnd := asked.showEnd.trans perm.mem_iff
  report := asked.report.trans (not_congr perm.mem_iff)
  name := names ▸ asked.name
  width := widths ▸ asked.width
  color := colors ▸ asked.color
  inputs := by
    have inputs := perm.filterMap Change.input?
    rw [← asked.inputs] at inputs
    cases given : s.input? with
    | none =>
        rw [given] at inputs
        exact (List.nil_perm.mp inputs).symm
    | some i =>
        rw [given] at inputs
        exact List.singleton_perm.mp inputs

/-- Whether some groups give the options that have a value the same values in the same order. -/
def SameValues (gs gs' : List Group) : Prop :=
  ∀ option ∈ ["--name=".toList, "--width=".toList, "--color=".toList],
    gs.filterMap (·.value? option) = gs'.filterMap (·.value? option)

theorem SameValues.symm {gs gs' : List Group} (values : SameValues gs gs') : SameValues gs' gs :=
  fun option member => (values option member).symm

theorem SameValues.append {gs gs' : List Group} (values : SameValues gs gs') (later : List Group) :
    SameValues (gs ++ later) (gs' ++ later) := by
  intro option member
  rw [List.filterMap_append, List.filterMap_append, values option member]

/-- Groups can be permuted, if the values of each option stay in order. -/
theorem ofArguments_of_perm
    (perm : (Group.ofArguments arguments).Perm (Group.ofArguments arguments'))
    (values : SameValues (Group.ofArguments arguments) (Group.ofArguments arguments'))
    (read : ofArguments arguments = .ok s) : ofArguments arguments' = .ok s := by
  obtain ⟨cs, i, spell, one, asked⟩ := ofArguments_eq_ok_iff.mp read
  obtain ⟨cs', spell', order⟩ := spell.perm perm
  have names : cs.filterMap Change.name? = cs'.filterMap Change.name? := by
    rw [spell.filterMap_eq rfl fun _ _ writes => writes.name?_eq,
      spell'.filterMap_eq rfl fun _ _ writes => writes.name?_eq]
    exact values _ (by simp)
  have widths : cs.filterMap Change.width? = cs'.filterMap Change.width? := by
    rw [spell.filterMap_eq rfl fun _ _ writes => writes.width?_eq,
      spell'.filterMap_eq rfl fun _ _ writes => writes.width?_eq, ← List.filterMap_filterMap,
      ← List.filterMap_filterMap, values "--width=".toList (by simp)]
  have colors : cs.filterMap Change.color? = cs'.filterMap Change.color? := by
    rw [spell.filterMap_eq rfl fun _ _ writes => writes.color?_eq,
      spell'.filterMap_eq rfl fun _ _ writes => writes.color?_eq, ← List.filterMap_filterMap,
      ← List.filterMap_filterMap, values "--color=".toList (by simp)]
  have asked' := asked.perm order names widths colors
  refine ofArguments_eq_ok_iff.mpr ⟨cs', i, spell', ?_, asked'⟩
  rw [← asked'.inputs, asked.inputs, one]

/-- Settings are read if every group is well formed and one of them gives an input. -/
theorem exists_ofArguments_iff :
    (∃ s, ofArguments arguments = .ok s) ↔
      (∀ g ∈ Group.ofArguments arguments, g.IsWellFormed) ∧
        ∃ front g back, Group.ofArguments arguments = front ++ g :: back ∧ g.GivesInput ∧
          ∀ g' ∈ front ++ back, ¬ g'.GivesInput := by
  constructor
  · rintro ⟨s, read⟩
    obtain ⟨cs, i, spell, one, -⟩ := ofArguments_eq_ok_iff.mp read
    exact ⟨Group.exists_spell_iff.mp ⟨cs, spell⟩, spell.exists_filterMap_input?_iff.mp ⟨i, one⟩⟩
  · rintro ⟨wellFormed, oneInput⟩
    obtain ⟨cs, spell⟩ := Group.exists_spell_iff.mpr wellFormed
    obtain ⟨i, one⟩ := spell.exists_filterMap_input?_iff.mpr oneInput
    obtain ⟨s, asked⟩ := exists_isAskedBy (Nat.le_of_eq (congrArg List.length one))
    exact ⟨s, ofArguments_eq_ok_iff.mpr ⟨cs, i, spell, one, asked⟩⟩

/-- What arguments mean.

They fall into groups.  There are settings if every group is well formed and exactly one gives
an input, and then they are what the changes of the groups ask for.  So groups that stand before
others can be permuted, as long as the values of each option stay in order. -/
theorem ofArguments_isMeant :
    (∀ arguments,
      (Group.ofArguments arguments).flatMap Group.arguments = arguments ∧
      ((∃ s, ofArguments arguments = .ok s) ↔
        (∀ g ∈ Group.ofArguments arguments, g.IsWellFormed) ∧
          ∃ front g back, Group.ofArguments arguments = front ++ g :: back ∧ g.GivesInput ∧
            ∀ g' ∈ front ++ back, ¬ g'.GivesInput) ∧
      ∀ s, ofArguments arguments = .ok s ↔
        ∃ cs i, Group.Spell (Group.ofArguments arguments) cs ∧
          cs.filterMap Change.input? = [i] ∧ s.IsAskedBy cs) ∧
    ∀ gs gs' rest, (∀ g ∈ gs, g.IsWhole) → gs.Perm gs' → SameValues gs gs' →
      ∀ s, ofArguments (gs.flatMap Group.arguments ++ rest) = .ok s ↔
        ofArguments (gs'.flatMap Group.arguments ++ rest) = .ok s := by
  constructor
  · intro arguments
    exact ⟨Group.flatMap_arguments_ofArguments arguments, exists_ofArguments_iff,
      fun s => ofArguments_eq_ok_iff⟩
  · intro gs gs' rest whole perm values s
    have groups := Group.ofArguments_flatMap_append whole rest
    have groups' := Group.ofArguments_flatMap_append
      (fun g member => whole g (perm.mem_iff.mpr member)) rest
    have order := perm.append_right (Group.ofArguments rest)
    have values := values.append (Group.ofArguments rest)
    rw [← groups, ← groups'] at order values
    exact ⟨ofArguments_of_perm order values, ofArguments_of_perm order.symm values.symm⟩

/-- A file can be named in front of two widths or between them. -/
theorem ofArguments_isMeant_of_widths :
    let width : Group := .alone "--width=2".toList
    let width' : Group := .alone "--width=+3".toList
    let file : Group := .fileAt "-f".toList "--".toList
    let gs := [file, width, width']
    let gs' := [width, file, width']
    (∀ g ∈ gs, g.IsWhole) ∧ gs.Perm gs' ∧ SameValues gs gs' ∧
      ∀ s, ofArguments (gs.flatMap Group.arguments ++ [['-', '-']]) = .ok s ↔
        ofArguments (gs'.flatMap Group.arguments ++ [['-', '-']]) = .ok s := by
  intro width width' file gs gs'
  have whole : ∀ g ∈ gs, g.IsWhole :=
    List.forall_mem_cons.mpr ⟨.fileAt (by decide) _,
      List.forall_mem_cons.mpr ⟨.alone (by decide) (by decide),
        List.forall_mem_singleton.mpr (.alone (by decide) (by decide))⟩⟩
  have perm : gs.Perm gs' := by decide
  have values : SameValues gs gs' := by
    rw [SameValues]
    decide
  exact ⟨whole, perm, values, ofArguments_isMeant.2 gs gs' _ whole perm values⟩

end Settings

end TemplateLexer
