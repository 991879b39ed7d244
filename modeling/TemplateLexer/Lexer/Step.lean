import TemplateLexer.Lexer.Event
import TemplateLexer.Reader

/-!
# Steps

In each mode the lexer takes one step, which moves the reader, makes some tokens and
names the next mode.  Where it begins, and where it makes a token, it tells an event.

Only a step in text or in a block makes no token, and then the next step makes
one.  A step in text can make two, the last text and the end of input.
-/

namespace TemplateLexer

/-- The result of a step. -/
structure Step where
  /-- The reader after the step. -/
  reader : Reader
  /-- The tokens made, in order. -/
  tokens : List Token
  /-- The events told, in order. -/
  events : List Event
  /-- The mode of the next step, or none if the run halts. -/
  next? : Option Mode
deriving DecidableEq, Repr

namespace Step

/-- Makes a token of the lexeme, and tells of it. -/
def make (kind : TokenKind) (r : Reader) : Except Fault (Token × Event × Reader) := do
  let ((span, lexeme), r) ← r.takeLexeme
  return (← Token.ofText kind span lexeme, .emitted kind span, r)

/-- Makes a token of the lexeme and goes on. -/
def makeAndGo (kind : TokenKind) (next : Mode) (r : Reader) : Except Fault Step := do
  let (token, event, r) ← make kind r
  return ⟨r, [token], [event], some next⟩

/-- Makes a token of the lexeme if there is one, and goes on without one if not. -/
def makeIfAny (kind : TokenKind) (r : Reader) :
    Except Fault (List Token × List Event × Reader) := do
  if r.hasLexeme then
    let (token, event, r) ← make kind r
    return ([token], [event], r)
  else return ([], [], r)

/-- Halts with an error about the last character read, and tells of it. -/
def haltWith (cause : LexError.Cause) (r : Reader) : Except Fault Step := do
  let error : LexError := ⟨cause, ← r.lastSpan⟩
  return ⟨r, [.ofError error], [.failed error], none⟩

/-- Text up to the next left delimiter or the end of the input. -/
def text (r : Reader) : Except Fault Step := do
  let (found, r) ← r.seek leftDelimiter
  let (before, told, r) ← makeIfAny .text r
  if found then return ⟨r, before, told, some .opening⟩
  let (last, event, r) ← make .endOfInput r
  return ⟨r, before ++ [last], told ++ [event], none⟩

/-- A left delimiter. -/
def opening (r : Reader) : Except Fault Step := do
  makeAndGo .leftDelimiter .block (← r.skip leftDelimiter.size)

/-- Blanks, with at most the given number of rounds, and then the first character that
is none decides. -/
def blockWithin : Nat → Reader → Except Fault Step
  | 0, _ => .error .stalled
  | bound + 1, r => do
      if ← r.isAt rightDelimiter then
        if r.hasLexeme then throw .lexemeBeforeClosing
        return ⟨r, [], [], some .closing⟩
      match ← r.read with
      | (none, r) => haltWith .unclosedBlock r
      | (some c, r) =>
          if c = '\n' then haltWith .unclosedBlock r
          else if isBlank c then blockWithin bound r.dropLexeme
          else if startsNumber c then return ⟨← r.unread, [], [], some .number⟩
          else haltWith (.unexpectedCharacter c) r

/-- Blanks, up to a number or the right delimiter.  There are at most as many as
characters. -/
def block (r : Reader) : Except Fault Step := blockWithin (r.text.length + 1) r

/-- A right delimiter. -/
def closing (r : Reader) : Except Fault Step := do
  makeAndGo .rightDelimiter .text (← r.skip rightDelimiter.size)

/-- A sign, if there is one, and all the digits that follow. -/
def number (r : Reader) : Except Fault Step := do
  let (_, r) ← r.readIf isSign
  makeAndGo .number .block (← r.readWhile Char.isDigit)

end Step

/-- What a step does in a mode. -/
def Mode.act : Mode → Reader → Except Fault Step
  | text => Step.text
  | opening => Step.opening
  | block => Step.block
  | closing => Step.closing
  | number => Step.number

/-- The step in a mode, which is announced first. -/
def Mode.step (mode : Mode) (r : Reader) : Except Fault Step := do
  let announcement := Event.step mode r.pos
  let s ← mode.act r
  return { s with events := announcement :: s.events }

end TemplateLexer
