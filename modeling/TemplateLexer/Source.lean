import TemplateLexer.Lexer.Basic
import TemplateLexer.Text.Check

/-!
# Sources

A source is a text with a name, and with the *issues* of the bytes it came from.
Bytes are read as UTF-8 and malformed sequences are replaced, so every sequence
of bytes is a source.

A byte order mark at the start is an issue.  It stays in the text.  Each malformed
sequence is an issue.  The position of an issue is an offset in the text, and its
length counts the bytes that were found.  Both are numbers of 32 bits, as in a
span.
-/

namespace TemplateLexer

namespace Source

/-- The kind of an issue. -/
inductive IssueKind where
  /-- A byte order mark in UTF-8. -/
  | utf8Mark
  /-- A byte order mark in UTF-16, low byte first. -/
  | utf16LittleEndianMark
  /-- A byte order mark in UTF-16, high byte first. -/
  | utf16BigEndianMark
  | malformed
deriving DecidableEq, Repr

/-- The kind of an issue in words. -/
def IssueKind.description : IssueKind → Text
  | utf8Mark => "UTF-8 byte order mark".toList
  | utf16LittleEndianMark => "UTF-16 little-endian byte order mark".toList
  | utf16BigEndianMark => "UTF-16 big-endian byte order mark".toList
  | malformed => "invalid UTF-8 sequence".toList

/-- Something noteworthy about the bytes of a source. -/
structure Issue where
  kind : IssueKind
  /-- The offset in the text. -/
  pos : Nat
  /-- The number of bytes found. -/
  length : Nat
deriving DecidableEq, Repr

end Source

/-- A text with a name. -/
structure Source where
  name : Text
  text : Text
  /-- The issues, in the order of the bytes. -/
  issues : List Source.Issue
deriving DecidableEq, Repr

namespace Source

/-! ## Issues -/

/-- The issue of a byte order mark at the start. -/
def markIssues : Bytes → List Issue
  | 0xEF :: 0xBB :: 0xBF :: _ => [⟨.utf8Mark, 0, 3⟩]
  | 0xFF :: 0xFE :: _ => [⟨.utf16LittleEndianMark, 0, 2⟩]
  | 0xFE :: 0xFF :: _ => [⟨.utf16BigEndianMark, 0, 2⟩]
  | _ => []

/-! ## Decoding -/

/-- Decodes the bytes that are left and puts the result behind a text.  A check tells how far
they are well formed.  Behind that a malformed sequence is replaced, and the rest is decoded
likewise.  A sequence that more bytes could still complete reaches to the end. -/
def decodeBehind (text : Text) (rest : Bytes) : Text × List Issue :=
  match _ : Text.check rest with
  | .ok valid => (text ++ valid, [])
  | .error e =>
      let after := rest.drop e.validUpTo
      -- the bytes in front are well formed, and decoding replaces nothing in them
      let text := text ++ Text.decode (rest.take e.validUpTo)
      let length := e.errorLength?.getD after.length
      let issue : Issue := ⟨.malformed, Span.saturate text.size, Span.saturate length⟩
      let (text, issues) := decodeBehind (text ++ [Text.replacement]) (after.drop length)
      (text, issue :: issues)
termination_by rest.length
decreasing_by exact Text.length_drop_lt ‹_›

/-! ## Making a source -/

/-- The source of a text. -/
def ofText (name text : Text) : Source := ⟨name, text, markIssues text.encode⟩

/-- The source of a sequence of bytes. -/
def ofBytes (name : Text) (bytes : Bytes) : Source :=
  let (text, issues) := decodeBehind [] bytes
  ⟨name, text, markIssues bytes ++ issues⟩

/-- The lexer at the start of a source. -/
def lexer (s : Source) : Lexer := Lexer.ofText s.name s.text

/-! ## Telling about a source -/

/-- The line that warns of an issue. -/
def warning (s : Source) (i : Issue) : Text :=
  "warning: ".toList ++ s.name ++ [':', ' '] ++ i.kind.description ++ " at byte ".toList ++
    Text.decimal i.pos ++ ['\n']

/-- A line for each issue, in order. -/
def warnings (s : Source) : Text := s.issues.flatMap s.warning

/-- What the log says of a source once it is loaded. -/
structure Summary where
  name : Text
  /-- The size of the text. -/
  bytes : Nat
  /-- The number of issues. -/
  issues : Nat
deriving DecidableEq, Repr

/-- The summary of a source. -/
def summary (s : Source) : Summary := ⟨s.name, s.text.size, s.issues.length⟩

end Source

end TemplateLexer
