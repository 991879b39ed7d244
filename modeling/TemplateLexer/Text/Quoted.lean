import TemplateLexer.Text.Numeral
import TemplateLexer.Text.Unprintable

/-!
# Quoted text

A quoted text stands on one line between quotation marks.  Inside it five
characters and the quotation mark have an escape of a backslash and one
character.  The other unprintable characters are written as `\u` with the code
point in braces.  All else stands for itself, the apostrophe included.

Every escape starts with a backslash, and a backslash is itself escaped.  So the
quoted form determines the text.
-/

namespace TemplateLexer.Text

/-- The written form of a character between quotation marks. -/
def escape : Char → Text
  | '\x00' => ['\\', '0']
  | '\t' => ['\\', 't']
  | '\n' => ['\\', 'n']
  | '\r' => ['\\', 'r']
  | '"' => ['\\', '"']
  | '\\' => ['\\', '\\']
  | c => if isUnprintable c then ['\\', 'u', '{'] ++ hexadecimal c.toNat ++ ['}'] else [c]

/-- The text between quotation marks. -/
def quoted (t : Text) : Text := '"' :: (t.flatMap escape ++ ['"'])

example : quoted ['a', '\n', '"', '\'', 'é', '\x07'] = "\"a\\n\\\"'é\\u\x7b7\x7d\"".toList := by
  decide +kernel

end TemplateLexer.Text
