import TemplateLexer.Token

/-!
# Settings

What a run of the program is asked to do.
-/

namespace TemplateLexer

/-- Where the template comes from. -/
inductive Input where
  | text (t : Text)
  | file (path : Text)
  | standard
deriving DecidableEq, Repr

/-- The input at a path.  A dash stands for the standard input. -/
def Input.ofPath (path : Text) : Input := if path = ['-'] then .standard else .file path

theorem Input.ofPath_of_ne {path : Text} (noDash : path ≠ ['-']) : ofPath path = .file path :=
  if_neg noDash

/-- When a report has colors. -/
inductive Coloring where
  | auto
  | always
  | never
deriving DecidableEq, Repr

namespace Coloring

/-- The word for a mode. -/
def word : Coloring → Text
  | auto => "auto".toList
  | always => "always".toList
  | never => "never".toList

/-- The mode that a word stands for. -/
def ofWord? (t : Text) : Option Coloring := [auto, always, never].find? (·.word = t)

/-- Whether there are colors, on a terminal or not. -/
def enabled : Coloring → Bool → Bool
  | auto, terminal => terminal
  | always, _ => true
  | never, _ => false

end Coloring

/-- What a run is asked to do. -/
structure Settings where
  name : Text := "number lexer".toList
  /-- Where the template comes from, if that was said. -/
  input? : Option Input := none
  /-- Whether tokens are listed with span and kind. -/
  spans : Bool := false
  /-- How many characters of a token are displayed. -/
  width : Nat := Token.defaultWidth
  /-- Whether the end of input is listed. -/
  showEnd : Bool := false
  /-- Whether an error is reported. -/
  report : Bool := true
  /-- When the report has colors. -/
  color : Coloring := .auto
deriving DecidableEq, Repr

end TemplateLexer
