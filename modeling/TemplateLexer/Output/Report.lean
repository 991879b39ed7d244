import TemplateLexer.Source

/-!
# Reports

A report of an error names a source, gives the message of the error, and marks the
part of the text that the error is about, with a label.  Its span counts bytes and
not characters.

How a report looks is left to a *drawing*, which is an argument of all that reports.
-/

namespace TemplateLexer

/-- The label of a cause. -/
def LexError.Cause.label : LexError.Cause → Text
  | unclosedBlock => "expected `\x7d\x7d` before this point".toList
  | unexpectedCharacter _ => "expected a blank, a number, or `\x7d\x7d`".toList

/-- What is reported of an error. -/
structure Report where
  /-- Whether the report has colors. -/
  color : Bool
  /-- The name of the source. -/
  name : Text
  /-- The text of the source. -/
  text : Text
  /-- The bytes that are marked. -/
  span : Span
  message : Text
  /-- What is said of the marked bytes. -/
  label : Text
deriving DecidableEq, Repr

namespace Report

/-- A way to draw reports.  It can refuse a report with a fault. -/
abbrev Drawing := Report → Except Fault Text

/-- The report of an error in a source. -/
def ofError (color : Bool) (source : Source) (error : LexError) : Report :=
  { color, name := source.name, text := source.text, span := error.span,
    message := error.message, label := error.cause.label }

end Report

end TemplateLexer
