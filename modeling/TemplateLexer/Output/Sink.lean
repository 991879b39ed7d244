import TemplateLexer.Failure
import TemplateLexer.Text.Utf8

/-!
# Sinks

A sink takes bytes in order.  It may have room for so many bytes only.  It takes
what it has room for, and fails if that is not all.  The room counts bytes, so the
last character that was taken may be incomplete.
-/

namespace TemplateLexer

/-- A place to write to. -/
structure Sink where
  /-- How many more bytes there is room for.  There is no limit without it. -/
  room? : Option Nat := none
  /-- What was written, newest first. -/
  chunks : List Bytes := []
deriving DecidableEq, Repr

namespace Sink

/-- The bytes that were taken. -/
def contents (s : Sink) : Bytes := s.chunks.reverse.flatten

/-- What a sink without enough room says. -/
def full : Failure := .write ⟨.other, "sink full".toList⟩

/-- Writes a text.  Returns whether there was room for all of it. -/
def write (s : Sink) (t : Text) : Except Failure Unit × Sink :=
  let bytes := t.encode
  match s.room? with
  | none => (.ok (), { s with chunks := bytes :: s.chunks })
  | some room =>
      if bytes.length ≤ room then
        (.ok (), ⟨some (room - bytes.length), bytes :: s.chunks⟩)
      else (.error full, ⟨some 0, bytes.take room :: s.chunks⟩)

end Sink

end TemplateLexer
