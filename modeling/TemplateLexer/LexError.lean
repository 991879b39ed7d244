import TemplateLexer.Span

/-!
# Lexical errors

Text outside of blocks is never wrong.  Inside a block two things are.  The block
is not closed on its line, or a character stands there that is no blank, no part
of a number and no closing delimiter.  The span of an error covers the character
that it is about.  It is empty at the end of the input.

The message names the character by its code point.  The character itself follows
between apostrophes, unless it is a control.
-/

namespace TemplateLexer

/-- What is wrong in a block. -/
inductive LexError.Cause where
  /-- The input or the line ends before the closing delimiter. -/
  | unclosedBlock
  /-- A character that has no place in a block. -/
  | unexpectedCharacter (c : Char)
deriving DecidableEq, Repr

/-- An error and its place in the input. -/
structure LexError where
  cause : LexError.Cause
  /-- The character it is about. -/
  span : Span
deriving DecidableEq, Repr

namespace LexError

/-- Whether a character is a control, of the first or of the second set. -/
def isControl (c : Char) : Bool :=
  c.toNat < 0x20 || (0x7F ≤ c.toNat && c.toNat < 0xA0)

/-- The message of a cause. -/
def Cause.message : Cause → Text
  | unclosedBlock => "unclosed block".toList
  | unexpectedCharacter c =>
      "unexpected character in block: ".toList ++ Text.codePoint c ++
        if isControl c then [] else [' ', '\'', c, '\'']

/-- The message of an error is that of its cause. -/
def message (e : LexError) : Text := e.cause.message

end LexError

end TemplateLexer
