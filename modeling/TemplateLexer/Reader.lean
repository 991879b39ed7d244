import TemplateLexer.Offset
import TemplateLexer.Span
import TemplateLexer.Text.Search

/-!
# Readers

A reader goes over a text from its start.  It keeps two places.  `pos` is where
the next character is read, and `mark` is where the *lexeme* begins, which is the
text read since the last token.

One read can be undone.  So a reader also keeps the width of the last character
it read.  The width is zero after a read at the end of the text, and undoing
that read moves nothing.  There is no width before the first read, after an
unread, and after a step over more than one character.  Taking or dropping the
lexeme keeps the width.  After a read, a drop and an unread the lexeme would
begin after it ends, and it is then a fault to ask for it.

The operations return the reader after the step.  One that faults leaves the
reader as it was.
-/

namespace TemplateLexer

/-- A place in a text, with the lexeme that ends there. -/
structure Reader where
  /-- The whole text. -/
  text : Text
  /-- The offset of the first byte of the lexeme. -/
  mark : Nat := 0
  /-- The offset of the next byte to read. -/
  pos : Nat := 0
  /-- The width of the last read, if it can be undone. -/
  width? : Option Nat := none
deriving DecidableEq, Repr

namespace Reader

/-! ## Views -/

/-- The text that is not read yet. -/
def rest (r : Reader) : Except Fault Text := Fault.ofSlice (r.text.dropBytes? r.pos)

/-- Whether the whole text is read. -/
def atEnd (r : Reader) : Bool := r.text.size ≤ r.pos

/-- Whether the lexeme has a character. -/
def hasLexeme (r : Reader) : Bool := r.mark < r.pos

/-- The lexeme. -/
def lexeme (r : Reader) : Except Fault Text := Fault.ofSlice (r.text.slice? r.mark r.pos)

/-- The span of the lexeme. -/
def lexemeSpan (r : Reader) : Span := Span.between r.mark r.pos

/-- The span of the last character read, which is empty if there is none to undo. -/
def lastSpan (r : Reader) : Except Fault Span := do
  let start ← Offset.sub r.pos (r.width?.getD 0)
  return Span.between start r.pos

/-- Whether the text that is not read yet begins with `pattern`. -/
def isAt (r : Reader) (pattern : Text) : Except Fault Bool := do
  return pattern.isPrefixOf (← r.rest)

/-! ## Single characters -/

/-- Reads a character, if there is one. -/
def read (r : Reader) : Except Fault (Option Char × Reader) := do
  match ← r.rest with
  | [] => return (none, { r with width? := some 0 })
  | c :: _ =>
      let pos ← Offset.add r.pos c.utf8Size
      return (some c, { r with pos, width? := some c.utf8Size })

/-- Undoes the last read. -/
def unread (r : Reader) : Except Fault Reader := do
  match r.width? with
  | none => throw (.unreadWithoutRead r.pos)
  | some width => return { r with pos := ← Offset.sub r.pos width, width? := none }

/-- The next character, which stays unread. -/
def peek (r : Reader) : Except Fault (Option Char × Reader) := do
  let (c, r) ← r.read
  return (c, ← r.unread)

/-- Reads the next character if it is valid.  Returns whether it was. -/
def readIf (r : Reader) (valid : Char → Bool) : Except Fault (Bool × Reader) := do
  let (c, r) ← r.read
  if c.any valid then return (true, r) else return (false, ← r.unread)

/-! ## Longer steps -/

/-- Reads valid characters, with at most the given number of reads.  The last read is
undone, since it found no valid character. -/
def readWhileWithin (valid : Char → Bool) : Nat → Reader → Except Fault Reader
  | 0, _ => .error .stalled
  | bound + 1, r => do
      let (c, r) ← r.read
      if c.any valid then readWhileWithin valid bound r else r.unread

/-- Reads the longest run of valid characters. -/
def readWhile (r : Reader) (valid : Char → Bool) : Except Fault Reader :=
  readWhileWithin valid (r.text.length + 1) r

/-- Steps over `length` bytes, or to the end if there are fewer. -/
def skip (r : Reader) (length : Nat) : Except Fault Reader := do
  let stop := min (← Offset.add r.pos length) r.text.size
  if r.text.isBoundary stop then return { r with pos := stop, width? := none }
  else throw (.splitsCharacter length r.pos)

/-- Steps to the next occurrence of `pattern`, or to the end if there is none.
Returns whether there is one. -/
def seek (r : Reader) (pattern : Text) : Except Fault (Bool × Reader) := do
  match Text.offsetOf? pattern (← r.rest) with
  | some skipped =>
      return (true, { r with pos := ← Offset.add r.pos skipped, width? := none })
  | none => return (false, { r with pos := r.text.size, width? := none })

/-! ## The lexeme -/

/-- Begins a new lexeme and drops the last one. -/
def dropLexeme (r : Reader) : Reader := { r with mark := r.pos }

/-- Begins a new lexeme and returns the last one with its span. -/
def takeLexeme (r : Reader) : Except Fault ((Span × Text) × Reader) := do
  return ((r.lexemeSpan, ← r.lexeme), r.dropLexeme)

/-! ## Tests -/

/-- The character that was read is two bytes wide, and unreading it returns to the
start. -/
example : ((Reader.mk ['é', 'x'] 0 0 none).read >>= fun (_, r) => r.unread) =
    .ok (Reader.mk ['é', 'x'] 0 0 none) := rfl

/-- Dropping a lexeme and unreading its last character leaves no lexeme. -/
example : ((Reader.mk ['x'] 0 0 none).read >>= fun (_, r) => r.dropLexeme.unread >>= lexeme) =
    .error .badSlice := rfl

example : (Reader.mk ['é'] 0 0 none).skip 1 = .error (.splitsCharacter 1 0) := rfl

end Reader

end TemplateLexer
