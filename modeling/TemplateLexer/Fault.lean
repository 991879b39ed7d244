import TemplateLexer.Text.Numeral

/-!
# Faults

A *fault* is a broken assumption of the program itself, and not an answer about
its input.  An operation that can be misused returns its result in
`Except Fault`, and leaves its argument as it was.

The faults of a reader can be brought about from outside, by an operation out of
turn.  Those of a run of the lexer cannot.  They stand for the places where the
run relies on what earlier steps established.
-/

namespace TemplateLexer

/-- A broken assumption. -/
inductive Fault where
  /-- An unread at `pos` with no read to undo. -/
  | unreadWithoutRead (pos : Nat)
  /-- A step over `length` bytes from `pos` that would end inside a character. -/
  | splitsCharacter (length pos : Nat)
  /-- A sum of offsets too large for a machine word. -/
  | addOverflow
  /-- A difference of offsets below zero. -/
  | subtractOverflow
  /-- A slice whose ends are out of order, past the end or inside a character. -/
  | badSlice
  /-- An error token made from text, and so without a cause. -/
  | errorWithoutCause
  /-- A lexeme in front of a closing delimiter. -/
  | lexemeBeforeClosing
  /-- A run that halted and queued no terminal token. -/
  | haltedWithoutTerminal
  /-- A loop that took more rounds than its bound. -/
  | stalled
  /-- A report label whose start is after its end. -/
  | labelReversed
deriving DecidableEq, Repr

namespace Fault

/-- The message of a fault, for those that have one.  The wording is that of the
output, which has names of its own for the operations. -/
def message? : Fault → Option Text
  | unreadWithoutRead pos =>
      some ("backup() at byte ".toList ++ Text.decimal pos ++
        " without a preceding read_next()".toList)
  | splitsCharacter length pos =>
      some ("advance(".toList ++ Text.decimal length ++ ") from byte ".toList ++ Text.decimal pos ++
        " splits a codepoint".toList)
  | errorWithoutCause => some "error items carry a ScanError".toList
  | addOverflow => some "attempt to add with overflow".toList
  | subtractOverflow => some "attempt to subtract with overflow".toList
  | labelReversed => some "Label start is after its end".toList
  | badSlice | lexemeBeforeClosing | haltedWithoutTerminal | stalled => none

/-- The value of a slice, or the fault of a slice that has none. -/
def ofSlice {α : Type} : Option α → Except Fault α
  | some a => .ok a
  | none => .error badSlice

end Fault

end TemplateLexer
