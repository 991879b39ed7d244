import TemplateLexer.Text.Basic

/-!
# Modes

The lexer is a machine of five modes.  Each is about one part of the language.

* text: everything up to the next left delimiter or the end of the input.  A run
  starts here, and ends here if nothing is wrong.
* opening: the left delimiter.
* block: blanks, up to a number or the right delimiter.  A run with an error ends
  here.
* number: a sign, digits, or both.
* closing: the right delimiter.

The modes follow each other in a circle, with numbers as a detour from the block.
-/

namespace TemplateLexer

/-! ## The language of blocks -/

/-- Opens a block. -/
def leftDelimiter : Text := ['{', '{']

/-- Closes a block. -/
def rightDelimiter : Text := ['}', '}']

/-- Whether a character separates the tokens of a block. -/
def isBlank (c : Char) : Bool := c = ' ' || c = '\t'

/-- Whether a character is the sign of a number. -/
def isSign (c : Char) : Bool := c = '+' || c = '-'

/-- Whether a character starts a number. -/
def startsNumber (c : Char) : Bool := isSign c || c.isDigit

/-! ## The modes -/

/-- The mode of a step. -/
inductive Mode where
  | text
  | opening
  | block
  | closing
  | number
deriving DecidableEq, Repr

end TemplateLexer
