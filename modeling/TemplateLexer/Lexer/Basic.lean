import TemplateLexer.Lexer.Step

/-!
# The lexer

A lexer hands out the tokens of a text one at a time.  It takes steps only when a
token is asked for and none is queued.  So its mode and its reader tell how far
the text was looked at.

The run *halts* when a step names no next mode.  The lexer is *finished* when it
has handed out a terminal token.  These can be apart, since the last text and the
end of input are queued together.  A finished lexer answers with the end of input
for ever, or with nothing where it is read as a sequence.

A step that queues nothing leads to one that does, so a token is never more than
`Lexer.stepBound` steps away.
-/

namespace TemplateLexer

/-- A run over a text, between two tokens. -/
structure Lexer where
  /-- A label for messages. -/
  name : Text
  /-- The reader over the text. -/
  reader : Reader
  /-- The mode of the next step, or none after the halt. -/
  mode? : Option Mode := some .text
  /-- The tokens made and not handed out, in order. -/
  queue : List Token := []
  /-- Whether a terminal token was handed out. -/
  finished : Bool := false
  /-- The events so far, newest first. -/
  log : List Event := []
deriving DecidableEq, Repr

namespace Lexer

/-- The lexer at the start of a text. -/
def ofText (name text : Text) : Lexer := { name, reader := { text } }

/-- The whole text. -/
def text (l : Lexer) : Text := l.reader.text

/-- The events so far, in order. -/
def events (l : Lexer) : List Event := l.log.reverse

/-! ## One token -/

/-- Takes a step in a mode, queues its tokens and logs its events.  If the step names no
next mode, the halt is logged behind them. -/
def run (l : Lexer) (mode : Mode) : Except Fault Lexer := do
  let s ← mode.step l.reader
  let halt := if s.next?.isNone then [Event.halted s.reader.pos] else []
  return { l with
    reader := s.reader
    mode? := s.next?
    queue := l.queue ++ s.tokens
    log := (s.events ++ halt).reverse ++ l.log }

/-- The most steps between two tokens. -/
def stepBound : Nat := 2

/-- The next token, with at most the given number of steps. -/
def nextTokenWithin : Nat → Lexer → Except Fault (Token × Lexer)
  | bound, l =>
    match l.queue with
    | token :: queue =>
        .ok (token, { l with queue, finished := l.finished || token.endsRun })
    | [] =>
        if l.finished then .ok (Token.ofEnd l.text.size, l)
        else match l.mode? with
          | none => .error .haltedWithoutTerminal
          | some mode =>
              match bound with
              | 0 => .error .stalled
              | bound + 1 => do nextTokenWithin bound (← l.run mode)

/-- The next token.  A finished lexer gives the end of input. -/
def nextToken (l : Lexer) : Except Fault (Token × Lexer) := nextTokenWithin stepBound l

/-! ## The sequence of tokens -/

/-- The next token.  A finished lexer gives none. -/
def next? (l : Lexer) : Except Fault (Option Token × Lexer) :=
  if l.finished then .ok (none, l) else do
    let (token, l) ← l.nextToken
    return (some token, l)

/-- The tokens that are left, with at most the given number of requests. -/
def drainWithin : Nat → Lexer → Except Fault (List Token × Lexer)
  | 0, _ => .error .stalled
  | bound + 1, l => do
      match ← l.next? with
      | (none, l) => return ([], l)
      | (some token, l) =>
          let (tokens, l) ← drainWithin bound l
          return (token :: tokens, l)

/-- The tokens that are left.  A token covers a byte unless it is terminal, so
there are at most as many as bytes, the terminal one, and the request that finds
the lexer finished. -/
def drain (l : Lexer) : Except Fault (List Token × Lexer) := drainWithin (l.text.size + 2) l

end Lexer

/-- The tokens of a text, with the terminal one last. -/
def lex (name text : Text) : Except Fault (List Token) := do
  let (tokens, _) ← (Lexer.ofText name text).drain
  return tokens

/-! ## Tests -/

/-- The tokens of a text, or none after a fault. -/
def tokensOf (text : Text) : List Token := (lex [] text).toOption.getD []

/-- The kind and the text of each token. -/
example : (tokensOf ['a', '{', '{', ' ', '+', '1', '-', '2', '}', '}', '}']).map
      (fun t => (t.kind, t.text)) =
    [(.text, ['a']), (.leftDelimiter, leftDelimiter), (.number, ['+', '1']),
      (.number, ['-', '2']), (.rightDelimiter, rightDelimiter), (.text, ['}']),
      (.endOfInput, [])] := by decide +kernel

/-- The first two braces of three open the block. -/
example : (tokensOf ['{', '{', '{', '1', '}', '}']).map (fun t => (t.kind, t.span)) =
    [(.leftDelimiter, ⟨0, 2⟩), (.error, ⟨2, 3⟩)] := by decide +kernel

end TemplateLexer
