import TemplateLexer.Proofs.Meaning

/-!
# Settings as arguments

Settings are written as arguments: the options with a value, those without one that are needed,
and the input (`Settings.arguments`).  A template stands behind two dashes, so it may be anything,
and a name or a path is what stands behind the first equals sign.

`Settings.ofArguments_arguments_iff`: settings are read back from their arguments if they have an
input, a width that is not too large, and no file by the name of a dash.  No other settings are
read from any arguments (`exists_input_of_ofArguments`, `width_le_of_ofArguments`).
-/

namespace TemplateLexer

/-- What is written for a number is the number in decimal. -/
theorem Text.isDecimal_decimal (n : Nat) : IsDecimal (decimal n) n :=
  ⟨decimal n, .inl rfl, Nat.toDigits_ne_nil,
    fun _ member => Nat.isDigit_of_mem_toDigits (by decide) (by decide) member,
    Nat.ofDigitChars_toDigits (by decide) (by decide)⟩

/-! ## Writing settings -/

/-- One element if it is needed, and otherwise none. -/
def onlyIf {α : Type} (needed : Bool) (a : α) : List α := if needed then [a] else []

@[simp] theorem mem_onlyIf {α : Type} {needed : Bool} {a b : α} :
    b ∈ onlyIf needed a ↔ needed = true ∧ b = a := by
  cases needed <;> simp [onlyIf]

@[simp] theorem map_onlyIf {α β : Type} (f : α → β) (needed : Bool) (a : α) :
    (onlyIf needed a).map f = onlyIf needed (f a) := by
  cases needed <;> rfl

/-- The arguments that give an input. -/
def Input.arguments : Input → List Text
  | standard => ["-".toList]
  | file path => ["--file=".toList ++ path]
  | text t => ["--".toList, t]

/-- The argument that asks for colors, or for none. -/
def Coloring.argument : Coloring → Text
  | auto => "--color=auto".toList
  | always => "--color=always".toList
  | never => "--color=never".toList

namespace Settings

/-- The options of some settings. -/
def options (s : Settings) : List Text :=
  ["--name=".toList ++ s.name, "--width=".toList ++ Text.decimal s.width, s.color.argument] ++
  onlyIf s.spans "--spans".toList ++ onlyIf s.showEnd "--show-eof".toList ++
  onlyIf (!s.report) "--no-report".toList

/-- The arguments that ask for some settings. -/
def arguments (s : Settings) : List Text := s.options ++ s.input?.toList.flatMap Input.arguments

/-- The changes that the options of some settings write. -/
def changes (s : Settings) : List Change :=
  [.name s.name, .width s.width, .color s.color] ++ onlyIf s.spans .spans ++
  onlyIf s.showEnd .showEnd ++ onlyIf (!s.report) .noReport

end Settings

/-! ## Reading them back -/

/-- An input is read from its arguments, unless it is a file that stands for another input. -/
theorem Input.ofArguments_arguments {i : Input} (noDash : i ≠ .file ['-']) :
    ∃ written, Change.ofArguments false i.arguments = [.ok (.input i written)] := by
  cases i with
  | standard => exact ⟨['-'], rfl⟩
  | text t => exact ⟨t, rfl⟩
  | file path =>
      have other : path ≠ ['-'] := fun dash => noDash (congrArg Input.file dash)
      have form : "--file=".toList ++ path = Keyword.file.spelling ++ '=' :: path := rfl
      have noOption : Keyword.file.spelling ++ '=' :: path ≠ Keyword.file.spelling := by simp
      refine ⟨path, ?_⟩
      rw [arguments, form, (Keyword.Writes.withValue path).changes_cons noOption, ← form,
        (Group.Writes.file other).ofArgument_eq]
      rfl

namespace Coloring

theorem exists_argument_eq (mode : Coloring) :
    ∃ value, mode.argument = "--color".toList ++ '=' :: value := by
  cases mode <;> exact ⟨_, rfl⟩

theorem writes_argument (mode : Coloring) : (Group.alone mode.argument).Writes (.color mode) := by
  cases mode with
  | auto => exact .auto
  | always => exact .always
  | never => exact .never

end Coloring

namespace Settings

variable {s : Settings} {arguments : List Text}

/-- None of the options gives an input. -/
theorem areOptions_options (s : Settings) : AreOptions s.options := by
  intro argument member
  simp only [options, List.mem_append, List.mem_cons, List.not_mem_nil, or_false, mem_onlyIf]
    at member
  obtain (((rfl | rfl | rfl) | ⟨-, rfl⟩) | ⟨-, rfl⟩) | ⟨-, rfl⟩ := member
  · exact ⟨"--name".toList, by decide, .inr ⟨s.name, rfl⟩⟩
  · exact ⟨"--width".toList, by decide, .inr ⟨Text.decimal s.width, rfl⟩⟩
  · exact ⟨"--color".toList, by decide, .inr s.color.exists_argument_eq⟩
  · exact ⟨"--spans".toList, by decide, .inl rfl⟩
  · exact ⟨"--show-eof".toList, by decide, .inl rfl⟩
  · exact ⟨"--no-report".toList, by decide, .inl rfl⟩

/-- The options are read as the changes.  A width that is too large would not be. -/
theorem map_ofArgument_options (fits : s.width ≤ Offset.limit) :
    s.options.map Change.ofArgument = s.changes.map .ok := by
  have name := (Group.Writes.name s.name).ofArgument_eq
  have width := (Group.Writes.width (Text.isDecimal_decimal s.width) fits).ofArgument_eq
  have color := s.color.writes_argument.ofArgument_eq
  have spans := Group.Writes.spans.ofArgument_eq
  have showEnd := Group.Writes.showEnd.ofArgument_eq
  have noReport := Group.Writes.noReport.ofArgument_eq
  simp only [options, changes, List.map_append, List.map_cons, List.map_nil, map_onlyIf, name,
    width, color, spans, showEnd, noReport]

/-- The changes make the settings, whichever flags these have. -/
theorem applyAll_changes (s : Settings) :
    applyAll {} (s.changes.map .ok) = .ok { s with input? := none } := by
  obtain ⟨name, input?, spans, width, showEnd, report, color⟩ := s
  cases spans <;> cases showEnd <;> cases report <;> rfl

/-- Settings are read back from their arguments. -/
theorem ofArguments_of_given {i : Input} (given : s.input? = some i) (noDash : i ≠ .file ['-'])
    (fits : s.width ≤ Offset.limit) : ofArguments s.arguments = .ok s := by
  obtain ⟨written, gives⟩ := Input.ofArguments_arguments noDash
  rw [Settings.arguments, given, Option.toList_some, List.flatMap_singleton,
    ofArguments_append s.areOptions_options gives, map_ofArgument_options fits, applyAll_changes]
  cases s
  cases given
  rfl

end Settings

/-! ## What can be read -/

namespace Group

/-- No file by the name of a dash is given. -/
theorem Writes.ne_of_input {g : Group} {i : Input} {written : Text}
    (writes : g.Writes (.input i written)) : i ≠ .file ['-'] := by
  cases writes with
  | file other | fileAt _ other => exact fun same => other (Input.file.inj same)
  | fileDash | fileAtDash | standard | text | literal => nofun

theorem Spell.exists_of_mem {gs : List Group} {cs : List Change} {c : Change}
    (spell : Spell gs cs) (member : c ∈ cs) : ∃ g : Group, g.Writes c := by
  induction spell with
  | nil => cases member
  | dashes later ih => exact ih member
  | @cons g gs c cs first later ih =>
      cases member with
      | head => exact ⟨g, first⟩
      | tail _ member => exact ih member

end Group

namespace Settings

variable {s : Settings} {arguments : List Text}

/-- The input of settings that are read. -/
theorem exists_input_of_ofArguments (read : ofArguments arguments = .ok s) :
    ∃ i, s.input? = some i ∧ i ≠ .file ['-'] := by
  obtain ⟨cs, i, spell, one, asked⟩ := ofArguments_eq_ok_iff.mp read
  refine ⟨i, Option.toList_eq_singleton_iff.mp (asked.inputs.trans one), ?_⟩
  have member : i ∈ cs.filterMap Change.input? := by
    rw [one]
    exact List.mem_singleton_self i
  obtain ⟨c, asks, given⟩ := List.mem_filterMap.mp member
  obtain ⟨g, writes⟩ := spell.exists_of_mem asks
  cases c with
  | input i' written =>
      cases given
      exact writes.ne_of_input
  | _ => cases given

/-- The width of settings that are read. -/
theorem width_le_of_ofArguments (read : ofArguments arguments = .ok s) :
    s.width ≤ Offset.limit := by
  obtain ⟨cs, i, spell, one, asked⟩ := ofArguments_eq_ok_iff.mp read
  rw [asked.width]
  cases last : (cs.filterMap Change.width?).getLast? with
  | none => decide
  | some n =>
      obtain ⟨c, asks, given⟩ := List.mem_filterMap.mp (List.mem_of_getLast? last)
      obtain ⟨g, writes⟩ := spell.exists_of_mem asks
      cases c with
      | width n' =>
          cases given
          cases writes with
          | width _ fits => exact fits
      | _ => cases given

/-- Which settings are read back from their arguments.

They have an input, which is not a file by the name of a dash, and their width is a machine word.
Their name, their path and their template can be any text. -/
theorem ofArguments_arguments_iff (s : Settings) :
    ofArguments s.arguments = .ok s ↔
      (∃ i, s.input? = some i ∧ i ≠ .file ['-']) ∧ s.width ≤ Offset.limit := by
  constructor
  · intro read
    exact ⟨exists_input_of_ofArguments read, width_le_of_ofArguments read⟩
  · rintro ⟨⟨i, given, noDash⟩, fits⟩
    exact ofArguments_of_given given noDash fits

/-- A template that looks like an option, behind the largest width. -/
example :
    Settings.arguments
        { name := ['='], width := Offset.limit, input? := some (.text "--spans".toList) } =
      ["--name==", "--width=18446744073709551615", "--color=auto", "--", "--spans"].map
        String.toList := by
  decide

end Settings

end TemplateLexer
