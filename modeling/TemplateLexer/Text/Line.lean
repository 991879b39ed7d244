import TemplateLexer.Text.WhiteSpace

/-!
# Lines

A text is cut into lines after each line terminator, and a terminator belongs to
the line that it ends.  A carriage return and a line feed after it are one
terminator.  What follows the last terminator is a line unless it is empty.  So
the empty text has no line.

The line of an offset is the last that starts at or before it.
-/

namespace TemplateLexer.Text

/-- Whether a character ends a line. -/
def endsLine (c : Char) : Bool :=
  c = '\r' || c = '\n' || c = '\x0B' || c = '\x0C' || c = '\x85' || c = '\u2028' || c = '\u2029'

/-- A line with one more character at its start, or a line of that character alone. -/
def extendFirst (c : Char) : List Text → List Text
  | [] => [[c]]
  | line :: rest => (c :: line) :: rest

/-- The lines of a text. -/
def lines : Text → List Text
  | [] => []
  | '\r' :: '\n' :: t => ['\r', '\n'] :: lines t
  | c :: t => if endsLine c then [c] :: lines t else extendFirst c (lines t)

/-- A line with its place. -/
structure Line where
  /-- Its number, from one. -/
  number : Nat
  /-- The byte offset of its start. -/
  offset : Nat
  /-- Its text, with the terminator. -/
  text : Text
deriving DecidableEq, Repr

/-- The line of the offset `n`, which is `line` or one of those that follow. -/
def Line.find (n : Nat) : Line → List Text → Line
  | line, [] => line
  | line, next :: rest =>
      let start := line.offset + line.text.size
      if start ≤ n then Line.find n ⟨line.number + 1, start, next⟩ rest else line

/-- The line of the offset `n`. -/
def lineAt? (t : Text) (n : Nat) : Option Line :=
  match lines t with
  | [] => none
  | first :: rest => some (Line.find n ⟨1, 0, first⟩ rest)

/-- How many characters of a text begin before the byte `n`. -/
def charsBefore : Nat → Text → Nat
  | 0, _ | _, [] => 0
  | n + 1, c :: t => charsBefore (n + 1 - c.utf8Size) t + 1

/-- A text without the white space at its end. -/
def trimEnd (t : Text) : Text := (t.reverse.dropWhile isWhiteSpace).reverse

/-! ## Tests -/

example : lines "a\r\nb\n\nc".toList = ["a\r\n", "b\n", "\n", "c"].map String.toList := by
  decide +kernel

/-- The end of a text is on its last line, also behind a terminator. -/
example : lineAt? ['a', '\n', 'b', '\n'] 4 = some ⟨2, 2, ['b', '\n']⟩ := by decide +kernel

/-- A character counts if its first byte does. -/
example : charsBefore 2 ['a', 'é', 'b'] = 2 := by decide +kernel

end TemplateLexer.Text
