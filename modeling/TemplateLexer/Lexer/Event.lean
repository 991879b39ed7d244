import TemplateLexer.Lexer.Mode
import TemplateLexer.Token

/-!
# Events

A run tells of its events as they happen.  A step is announced before it does
anything, a token is told as it is made, and the halt is told when a step names no
next mode.
-/

namespace TemplateLexer

/-- Something that happened in a run. -/
inductive Event where
  /-- A step begins in a mode, at an offset. -/
  | step (mode : Mode) (pos : Nat)
  /-- A token other than an error was made. -/
  | emitted (kind : TokenKind) (span : Span)
  /-- An error was found. -/
  | failed (error : LexError)
  /-- The run halted, at an offset. -/
  | halted (pos : Nat)
deriving DecidableEq, Repr

end TemplateLexer
