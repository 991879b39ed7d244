import TemplateLexer.Fault
import TemplateLexer.Text.Numeral

/-!
# Spans

A span is the range of bytes from its start up to its stop, which is not in it.
Its ends are numbers of 32 bits.  An offset that needs more becomes the largest
of them.
-/

namespace TemplateLexer

/-- A range of bytes. -/
structure Span where
  /-- The offset of the first byte. -/
  start : Nat := 0
  /-- The offset after the last byte. -/
  stop : Nat := 0
deriving DecidableEq, Repr

namespace Span

/-- The largest end of a span. -/
def limit : Nat := 4294967295

/-- An offset as the end of a span. -/
def saturate (n : Nat) : Nat := min n limit

/-- The span between two offsets. -/
def between (start stop : Nat) : Span := ⟨saturate start, saturate stop⟩

/-- Offsets that are not too large are the ends themselves. -/
theorem between_of_le {start stop : Nat} (ordered : start ≤ stop) (short : stop ≤ limit) :
    between start stop = ⟨start, stop⟩ := by
  rw [between, saturate, saturate, Nat.min_eq_left (Nat.le_trans ordered short),
    Nat.min_eq_left short]

theorem between_ordered {start stop : Nat} (ordered : start ≤ stop) :
    (between start stop).start ≤ (between start stop).stop := by
  simp only [between, saturate]
  omega

/-- The empty span at an offset. -/
def point (n : Nat) : Span := between n n

/-- The number of bytes.  A span whose ends are out of order has none. -/
def length (s : Span) : Except Fault Nat :=
  if s.start ≤ s.stop then .ok (s.stop - s.start) else .error .subtractOverflow

/-- Whether the ends coincide. -/
def isEmpty (s : Span) : Bool := s.start = s.stop

/-- The number of offsets from the start up to the stop.  There are none if the ends
are out of order. -/
def extent (s : Span) : Nat := s.stop - s.start

/-- The ends with two dots between them. -/
def text (s : Span) : Text := Text.decimal s.start ++ ['.', '.'] ++ Text.decimal s.stop

end Span

end TemplateLexer
