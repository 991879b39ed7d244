import TemplateLexer.Failure
import TemplateLexer.Offset
import TemplateLexer.Settings.Basic

/-!
# Arguments

The arguments of a run are read from left to right as *changes* to the settings.
Most arguments are a change of their own.  `--file` and `-f` take the next argument
with them.  `--` is no change, and each argument after it is a template.

An argument that does not start with a dash is a template.  A dash alone is the
standard input.  Any other is an option, with a value after an equals sign or
without one.

The leftmost argument that cannot be read or applied is the failure.  There is at
most one input.  That there is at least one is asked last.
-/

namespace TemplateLexer

/-! ## Options -/

/-- An option with a name of more than one letter. -/
inductive Keyword where
  /-- List tokens with span and kind. -/
  | spans
  /-- List the end of input. -/
  | showEnd
  /-- Report no error. -/
  | noReport
  /-- Read a file. -/
  | file
  /-- Name the source. -/
  | name
  /-- Display so many characters. -/
  | width
  /-- Choose when there are colors. -/
  | color
deriving DecidableEq, Repr

namespace Keyword

/-- How a keyword is written. -/
def spelling : Keyword → Text
  | spans => "--spans".toList
  | showEnd => "--show-eof".toList
  | noReport => "--no-report".toList
  | file => "--file".toList
  | name => "--name".toList
  | width => "--width".toList
  | color => "--color".toList

/-- The keyword that is written so. -/
def ofSpelling? (t : Text) : Option Keyword :=
  [spans, showEnd, noReport, file, name, width, color].find? (·.spelling = t)

end Keyword

/-! ## Changes -/

/-- A change to the settings. -/
inductive Change where
  | spans
  | showEnd
  | noReport
  | name (t : Text)
  | width (n : Nat)
  | color (mode : Coloring)
  /-- Give the input, in these words. -/
  | input (i : Input) (written : Text)
deriving DecidableEq, Repr

namespace Change

/-- The change of an option with a value or without. -/
def ofOption (argument : Text) : Option Keyword → Option Text → Except Failure Change
  | some .spans, none => .ok .spans
  | some .showEnd, none => .ok .showEnd
  | some .noReport, none => .ok .noReport
  | some .file, some path => .ok (.input (.ofPath path) path)
  | some .name, some value => .ok (.name value)
  | some .width, some value =>
      match Text.readDecimal? Offset.limit value with
      | some n => .ok (.width n)
      | none => .error (.invalidValue Keyword.width.spelling value
          "a non-negative integer".toList)
  | some .color, some value =>
      match Coloring.ofWord? value with
      | some mode => .ok (.color mode)
      | none => .error (.invalidValue Keyword.color.spelling value
          "auto, always, or never".toList)
  | some .file, none => .error (.missingValue Keyword.file.spelling)
  | some .name, none => .error (.missingValue Keyword.name.spelling)
  | some .width, none => .error (.missingValue Keyword.width.spelling)
  | some .color, none => .error (.missingValue Keyword.color.spelling)
  | some .spans, some _ | some .showEnd, some _ | some .noReport, some _ | none, _ =>
      .error (.unknownOption argument)

/-- The change of an argument that stands alone. -/
def ofArgument (argument : Text) : Except Failure Change :=
  if argument.head? ≠ some '-' then .ok (.input (.text argument) argument)
  else if argument = ['-'] then .ok (.input .standard argument)
  else ofOption argument (Keyword.ofSpelling? (argument.takeWhile (· ≠ '=')))
    (argument.dropWhile (· ≠ '=')).tail?

/-- Whether an argument is an option that takes the next one as a path. -/
def takesPath (argument : Text) : Bool :=
  argument = Keyword.file.spelling || argument = ['-', 'f']

/-- The changes of some arguments.  They are all templates if `literal` is set. -/
def ofArguments : (literal : Bool) → List Text → List (Except Failure Change)
  | _, [] => []
  | true, argument :: rest => .ok (.input (.text argument) argument) :: ofArguments true rest
  | false, argument :: rest =>
      if argument = ['-', '-'] then ofArguments true rest
      else if takesPath argument then
        match rest with
        | [] => [.error (.missingValue Keyword.file.spelling)]
        | path :: rest => .ok (.input (.ofPath path) path) :: ofArguments false rest
      else ofArgument argument :: ofArguments false rest

end Change

/-! ## Reading settings -/

namespace Settings

/-- The settings after a change.  A second input is refused. -/
def apply (s : Settings) : Change → Except Failure Settings
  | .spans => .ok { s with spans := true }
  | .showEnd => .ok { s with showEnd := true }
  | .noReport => .ok { s with report := false }
  | .name t => .ok { s with name := t }
  | .width n => .ok { s with width := n }
  | .color mode => .ok { s with color := mode }
  | .input i written =>
      if s.input?.isSome then .error (.unexpectedArgument written)
      else .ok { s with input? := some i }

/-- The settings after some changes, or the first failure among them. -/
def applyAll : Settings → List (Except Failure Change) → Except Failure Settings
  | s, [] => .ok s
  | s, change :: rest => do applyAll (← s.apply (← change)) rest

/-- The settings that some arguments ask for. -/
def ofArguments (arguments : List Text) : Except Failure Settings := do
  let s ← applyAll {} (Change.ofArguments false arguments)
  if s.input?.isNone then throw .missingInput
  return s

end Settings

end TemplateLexer
