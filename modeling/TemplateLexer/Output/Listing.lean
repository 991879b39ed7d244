import TemplateLexer.Output.Sink
import TemplateLexer.Settings.Basic
import TemplateLexer.Source
import TemplateLexer.Text.Align

/-!
# Listings

A listing has a header with the first characters of the template, and a line for
each token.  The end of input has a line only if that is asked for.  A line is the
display of the token, with its span and its kind in columns before it if they are
asked for.

Tokens are taken from the lexer as they are written.  After a failed write no
further token is taken.
-/

namespace TemplateLexer.Listing

/-! ## Lines -/

/-- How many characters of the template the header shows. -/
def headerWidth : Nat := 100

/-- The first line. -/
def header (template : Text) : Text :=
  "lexing ".toList ++ (template.truncate headerWidth).quoted ++ ['.', '.', '.', '\n']

/-- The line of a token. -/
def line (settings : Settings) (token : Token) : Text :=
  let shown := token.display settings.width ++ ['\n']
  if settings.spans then
    token.span.text.alignRight 9 ' ' ++ [' ', ' '] ++ token.kind.name.alignLeft 14 ' ' ++
      ' ' :: shown
  else shown

/-- Whether a token has a line. -/
def isListed (settings : Settings) (token : Token) : Bool :=
  token.kind ≠ .endOfInput || settings.showEnd

/-! ## Writing -/

/-- What a listing found. -/
structure Outcome where
  /-- How many tokens were taken, with the terminal one. -/
  tokens : Nat
  /-- The error of the template. -/
  error? : Option LexError
deriving DecidableEq, Repr

/-- Writes the line of a token, if it has one. -/
def writeToken (settings : Settings) (token : Token) (sink : Sink) : Except Failure Unit × Sink :=
  if isListed settings token then sink.write (line settings token) else (.ok (), sink)

/-- Writes the tokens that are left, after `taken` others and with at most the given
number of requests. -/
def writeTokens (settings : Settings) :
    Nat → Nat → Lexer → Sink → Except Fault (Except Failure Outcome × Sink)
  | 0, _, _, _ => .error .stalled
  | bound + 1, taken, lexer, sink => do
      let (token, lexer) ← lexer.nextToken
      match writeToken settings token sink with
      | (.error failure, sink) => return (.error failure, sink)
      | (.ok (), sink) =>
          if token.endsRun then return (.ok ⟨taken + 1, token.error?⟩, sink)
          else writeTokens settings bound (taken + 1) lexer sink

/-- Writes the listing of a source. -/
def write (settings : Settings) (source : Source) (sink : Sink) :
    Except Fault (Except Failure Outcome × Sink) :=
  match sink.write (header source.text) with
  | (.error failure, sink) => .ok (.error failure, sink)
  | (.ok (), sink) => writeTokens settings (source.text.size + 1) 0 source.lexer sink

end TemplateLexer.Listing
