import TemplateLexer.Output.Report
import TemplateLexer.Output.Sink
import TemplateLexer.Text.Line
import TemplateLexer.Text.Width

/-!
# A drawing of reports

A drawing has the message of the report, a place, and the line of the text it is
in.  Two lines of drawing below mark the span of the report and lead from its
middle to the label.

```text
Error: unexpected character in block: U+0078 'x'
   ╭─[greeting:1:4]
   │
 1 │ {{ x }}
   │    ┬
   │    ╰── expected a blank, a number, or `}}`
───╯
```

The line is shown without white space at its end.  A tab becomes blanks up to the
next multiple of four characters, and other white space becomes a blank.  The
drawing follows the display width of what is above it.  An empty span is marked
by a bar at its place.

A span outside of the text has a drawing of its message alone.  The ends of a span
are in order, and it is a fault if they are not.  Of a span that goes on behind its
line, what is on the line is marked.
-/

namespace TemplateLexer.Report

/-! ## Colors -/

/-- A text in a color, if there are colors. -/
def paint (color : Bool) (code t : Text) : Text :=
  if color then ['\x1b', '['] ++ code ++ 'm' :: t ++ ['\x1b', '[', '0', 'm'] else t

/-- The color of the first word. -/
def errorCode : Text := "31".toList

/-- The color of the frame. -/
def frameCode : Text := "38;5;246".toList

/-- The color of the frame beside the drawing. -/
def gutterCode : Text := "38;5;240".toList

/-- The color of what is not marked. -/
def plainCode : Text := "38;5;249".toList

/-! ## Places -/

/-- The place of a span on its line. -/
structure Place where
  number : Nat
  /-- The line without white space at its end. -/
  shown : Text
  /-- The index of the first character marked. -/
  start : Nat
  /-- The index after the last character marked. -/
  stop : Nat
deriving DecidableEq, Repr

namespace Place

/-- Whether a span has a place in a text of `size` bytes. -/
def exists? (span : Span) (size : Nat) : Bool :=
  0 < size && span.start ≤ size && (span.stop ≤ span.start || span.stop - 1 ≤ size)

/-- The place of a span, if it has one. -/
def ofSpan? (text : Text) (span : Span) : Option Place :=
  match text.lineAt? span.start with
  | none => none
  | some line =>
      if exists? span text.size then
        let before := line.text.charsBefore (span.start - line.offset)
        let within := line.text.charsBefore (span.stop - line.offset)
        some ⟨line.number, line.text.trimEnd, before, within⟩
      else none

/-- The index of the character that the label hangs from. -/
def middle (p : Place) : Nat := (p.start + p.stop) / 2

/-- Whether the character at an index is marked. -/
def marks (p : Place) (i : Nat) : Bool := p.start ≤ i && i < p.stop

/-- The number of columns of the character at an index. -/
def columns (p : Place) (i : Nat) : Nat :=
  match p.shown[i]? with
  | none => 1
  | some '\t' => 4 - i % 4
  | some c => Text.width c

/-- The width of the line numbers. -/
def margin (p : Place) : Nat := (Text.decimal p.number).length

end Place

/-! ## The line -/

/-- What is written for the character at an index. -/
def expand (c : Char) (i : Nat) : Text :=
  if c = '\t' then List.replicate (4 - i % 4) ' '
  else if Text.isWhiteSpace c then [' ']
  else [c]

/-- The line as it is shown. -/
def lineText (color : Bool) (p : Place) : Text :=
  p.shown.zipIdx.flatMap fun (c, i) =>
    (expand c i).flatMap fun written => paint (color && !p.marks i) plainCode [written]

/-! ## The drawing -/

/-- A character of the drawing and what fills the columns after it. -/
structure Cell where
  /-- The first column. -/
  first : Char
  /-- The columns after it. -/
  tail : Char
deriving DecidableEq, Repr

/-- The cell that marks the character at an index. -/
def markCell (p : Place) (i : Nat) : Cell :=
  if p.marks i then ⟨if i = p.middle then '┬' else '─', '─'⟩
  else ⟨if i = p.middle then '│' else ' ', ' '⟩

/-- The cell of the line to the label below the character at an index. -/
def arrowCell (p : Place) (i : Nat) : Cell :=
  if i < p.middle then ⟨' ', ' '⟩ else ⟨if i = p.middle then '╰' else '─', '─'⟩

/-- A cell over some columns. -/
def Cell.draw (cell : Cell) : Nat → Text
  | 0 => []
  | n + 1 => cell.first :: List.replicate n cell.tail

/-- The cells below the line, up to two characters past the span. -/
def drawing (cell : Place → Nat → Cell) (p : Place) : Text :=
  (List.range (p.stop + 2)).flatMap fun i => (cell p i).draw (p.columns i)

/-! ## The whole -/

/-- The line with the message. -/
def messageLine (r : Report) : Text :=
  paint r.color errorCode "Error:".toList ++ ' ' :: r.message ++ ['\n']

/-- The lines below the message. -/
def body (r : Report) (p : Place) : Text :=
  let blank := List.replicate (p.margin + 1) ' '
  let frame := paint r.color frameCode
  let beside := ' ' :: paint r.color gutterCode (blank ++ ['│']) ++ [' ']
  ' ' :: blank ++ frame ['╭'] ++ frame ['─'] ++ frame ['['] ++ r.name ++ ':' ::
    Text.decimal p.number ++ ':' :: Text.decimal (p.start + 1) ++ frame [']'] ++ '\n' ::
  ' ' :: blank ++ frame ['│'] ++ '\n' ::
  ' ' :: frame (Text.decimal p.number ++ [' ', '│']) ++ ' ' :: lineText r.color p ++ '\n' ::
  beside ++ drawing markCell p ++ '\n' ::
  beside ++ drawing arrowCell p ++ ' ' :: r.label ++ '\n' ::
  frame (List.replicate (p.margin + 2) '─' ++ ['╯']) ++ ['\n']

/-- The drawing of a report. -/
def draw : Drawing := fun r =>
  if r.span.stop < r.span.start then .error .labelReversed
  else match Place.ofSpan? r.text r.span with
    | none => .ok (messageLine r)
    | some p => .ok (messageLine r ++ body r p)

/-- Draws the report of an error in a source. -/
def write (color : Bool) (source : Source) (error : LexError) (sink : Sink) :
    Except Fault (Except Failure Unit × Sink) := do
  return sink.write (← draw (ofError color source error))

end TemplateLexer.Report
