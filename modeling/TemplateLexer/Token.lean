import TemplateLexer.LexError
import TemplateLexer.Text.Quoted

/-!
# Tokens

A token is a piece of the input with its kind and its span.  Two kinds are
*terminal* and end a run.  A token of end of input covers nothing.  An error
token has the message of its error as its text, and carries the error.

A token is displayed as quoted text cut to a number of characters, with three
dots after it if something was cut.  The terminal tokens have displays of their
own, which are never cut.
-/

namespace TemplateLexer

/-! ## Kinds -/

/-- The kind of a token. -/
inductive TokenKind where
  | error
  /-- The end of an input without error. -/
  | endOfInput
  /-- The two braces that open a block. -/
  | leftDelimiter
  /-- The two braces that close a block. -/
  | rightDelimiter
  /-- ASCII digits with a sign or without, or a sign alone. -/
  | number
  | text
deriving DecidableEq, Repr

namespace TokenKind

/-- Whether a token of the kind ends a run. -/
def endsRun : TokenKind → Bool
  | error | endOfInput => true
  | leftDelimiter | rightDelimiter | number | text => false

/-- The name of a kind. -/
def name : TokenKind → Text
  | error => "Error".toList
  | endOfInput => "EndOfInput".toList
  | leftDelimiter => "LeftDelimiter".toList
  | rightDelimiter => "RightDelimiter".toList
  | number => "Number".toList
  | text => "Text".toList

/-- The place of a kind among the kinds. -/
def rank : TokenKind → Nat
  | error => 0
  | endOfInput => 1
  | leftDelimiter => 2
  | rightDelimiter => 3
  | number => 4
  | text => 5

instance : Ord TokenKind := ⟨fun a b => compare a.rank b.rank⟩

end TokenKind

/-! ## Tokens -/

/-- A piece of the input. -/
structure Token where
  kind : TokenKind
  /-- Its place in the input. -/
  span : Span
  /-- Its text, which is the message for an error. -/
  text : Text
  /-- The error of an error token. -/
  error? : Option LexError := none
deriving DecidableEq, Repr

namespace Token

/-- A token for a text at a span of the input.  An error is not made this way. -/
def ofText (kind : TokenKind) (span : Span) (text : Text) : Except Fault Token :=
  if kind = .error then .error .errorWithoutCause else .ok { kind, span, text }

/-- The token of an error. -/
def ofError (e : LexError) : Token :=
  { kind := .error, span := e.span, text := e.message, error? := some e }

/-- The token of the end of an input of `size` bytes. -/
def ofEnd (size : Nat) : Token :=
  { kind := .endOfInput, span := Span.point size, text := [] }

/-- Whether the token ends a run. -/
def endsRun (t : Token) : Bool := t.kind.endsRun

/-- The display of a token with at most `width` characters of its text. -/
def display (t : Token) (width : Nat) : Text :=
  match t.kind with
  | .endOfInput => "EOF".toList
  | .error => t.text
  | .leftDelimiter | .rightDelimiter | .number | .text =>
      let shown := t.text.truncate width
      if shown.size < t.text.size then shown.quoted ++ ['.', '.', '.'] else shown.quoted

/-- The number of characters displayed where no width is asked for. -/
def defaultWidth : Nat := 10

end Token

end TemplateLexer
