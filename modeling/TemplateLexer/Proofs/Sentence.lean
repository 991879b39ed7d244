import Mathlib.Computability.RegularExpressions
import TemplateLexer.Proofs.Yield

/-!
# The sequence of tokens

The kinds of the tokens of a text form a *sentence*, which is a word of a regular
expression.  Blocks with text in front of them come first.  The last token is the end of
input after some text, or the error of a block that was opened.

Each mode has the words that may follow in it.  A step that goes on puts the kinds of its
tokens in front of a word of the next mode, and that is a word of its own mode
(`Moves.mem_phrase`).

A token is also judged on its own, by its value and what follows the value in the text.
Each value is as long as it can be.  Text goes up to a left delimiter or to the end, and
the number ends where no digit follows.
-/

namespace TemplateLexer

open Text
open RegularExpression (char star)
open Language (append_mem_mul mem_mul nil_mem_kstar)

/-! ## Sentences -/

namespace TokenKind

/-- A block up to its last number, with the text in front of it. -/
def opened : RegularExpression TokenKind :=
  (1 + char text) * char leftDelimiter * star (char number)

/-- A block with the text in front of it. -/
def block : RegularExpression TokenKind := opened * char rightDelimiter

/-- The end of a sentence, behind its blocks. -/
def ending : RegularExpression TokenKind := (1 + char text) * char endOfInput + opened * char error

/-- The kinds of the tokens of a text. -/
def sentence : RegularExpression TokenKind := star block * ending

/-- The rest of a block, and of the sentence that it is in. -/
def body : RegularExpression TokenKind :=
  star (char number) * (char rightDelimiter * sentence + char error)

variable {kinds later lead : List TokenKind}

theorem append_mem_star {r : RegularExpression TokenKind} (first : kinds ∈ r.matches')
    (others : later ∈ r.star.matches') : kinds ++ later ∈ r.star.matches' := by
  obtain ⟨words, rfl, all⟩ := others
  exact ⟨kinds :: words, rfl, List.forall_mem_cons.mpr ⟨first, all⟩⟩

theorem mem_sentence (last : kinds ∈ ending.matches') : kinds ∈ sentence.matches' :=
  append_mem_mul (nil_mem_kstar _) last

theorem append_mem_sentence (first : kinds ∈ block.matches') (others : later ∈ sentence.matches') :
    kinds ++ later ∈ sentence.matches' := by
  obtain ⟨blocks, inBlocks, last, inEnding, rfl⟩ := mem_mul.mp others
  rw [← List.append_assoc]
  exact append_mem_mul (append_mem_star first inBlocks) inEnding

theorem mem_body (last : kinds ∈ (char rightDelimiter * sentence + char error).matches') :
    kinds ∈ body.matches' :=
  append_mem_mul (nil_mem_kstar _) last

theorem cons_mem_body (inBody : kinds ∈ body.matches') : number :: kinds ∈ body.matches' := by
  obtain ⟨numbers, inNumbers, rest, inRest, rfl⟩ := mem_mul.mp inBody
  have one : [number] ∈ (char number).matches' := rfl
  exact append_mem_mul (append_mem_star one inNumbers) inRest

/-- A block that is opened closes and a sentence follows, or it has an error. -/
theorem append_cons_mem_sentence (front : lead ∈ (1 + char text).matches')
    (inBody : kinds ∈ body.matches') : lead ++ leftDelimiter :: kinds ∈ sentence.matches' := by
  obtain ⟨numbers, inNumbers, rest, inRest, rfl⟩ := mem_mul.mp inBody
  have inOpened : lead ++ [leftDelimiter] ++ numbers ∈ opened.matches' :=
    append_mem_mul (append_mem_mul front rfl) inNumbers
  rcases inRest with closed | failed
  · obtain ⟨_, rfl, later, inSentence, rfl⟩ := mem_mul.mp closed
    have inBlock : lead ++ [leftDelimiter] ++ numbers ++ [rightDelimiter] ∈ block.matches' :=
      append_mem_mul inOpened rfl
    simpa using append_mem_sentence inBlock inSentence
  · obtain rfl : rest = [error] := failed
    have inEnding : lead ++ [leftDelimiter] ++ numbers ++ [error] ∈ ending.matches' :=
      Or.inr (append_mem_mul inOpened rfl)
    simpa using mem_sentence inEnding

end TokenKind

open TokenKind (sentence body)

/-- The kinds of the tokens that are made from a mode on. -/
def Mode.phrase : Mode → RegularExpression TokenKind
  | text => sentence
  | opening => char .leftDelimiter * body
  | block => body
  | closing => char .rightDelimiter * sentence
  | number => char .number * body

variable {mode next : Mode} {taken moved rest : Text} {tokens : List Token}
  {kinds : List TokenKind}

theorem textPieces_mem (taken t : Text) :
    (textPieces taken t).map (·.kind) ∈ (1 + char TokenKind.text).matches' := by
  rw [textPieces]
  split
  · exact Or.inl rfl
  · exact Or.inr rfl

/-- A step puts its tokens in front of what the next mode makes. -/
theorem Moves.mem_phrase (moves : Moves taken mode moved rest tokens next)
    (later : kinds ∈ next.phrase.matches') :
    tokens.map (·.kind) ++ kinds ∈ mode.phrase.matches' := by
  cases moves with
  | lead =>
      obtain ⟨_, rfl, rest, inBody, rfl⟩ := mem_mul.mp later
      exact TokenKind.append_cons_mem_sentence (textPieces_mem _ _) inBody
  | opening | closing | number => exact append_mem_mul rfl later
  | toClosing => exact TokenKind.mem_body (Or.inl later)
  | toNumber =>
      obtain ⟨_, rfl, rest, inBody, rfl⟩ := mem_mul.mp later
      exact TokenKind.cons_mem_body inBody

theorem Halts.mem_phrase {s : Step} (halts : Halts taken mode rest s) :
    s.tokens.map (·.kind) ∈ mode.phrase.matches' := by
  cases halts with
  | last =>
      rw [Step.tokens_announced, List.map_append]
      exact TokenKind.mem_sentence (Or.inl (append_mem_mul (textPieces_mem _ _) rfl))
  | offence => exact TokenKind.mem_body (Or.inr rfl)

theorem Yields.mem_phrase (yields : Yields mode taken rest tokens) :
    tokens.map (·.kind) ∈ mode.phrase.matches' := by
  induction yields with
  | halt halts => exact halts.mem_phrase
  | go moves _ ih =>
      rw [List.map_append]
      exact moves.mem_phrase ih

/-! ## Values -/

/-- What the value of a token of a kind is like, in front of what follows it. -/
def IsValue : TokenKind → Text → Text → Prop
  | .leftDelimiter, value, _ => value = leftDelimiter
  | .rightDelimiter, value, _ => value = rightDelimiter
  | .text, value, after =>
      value ≠ [] ∧ IsPlain value ∧ (after = [] ∨ leftDelimiter <+: after ∧ value.getLast? ≠ some '{')
  | .number, value, after => IsNumeral value ∧ ∀ c ∈ after.head?, c.isDigit = false
  | .endOfInput, value, after => value = [] ∧ after = []
  | .error, _, _ => True

/-- A token of a text.  An error token carries the error that its value is the message of.
The value of any other token stands at its span. -/
structure Token.IsProper (text : Text) (t : Token) : Prop where
  error_iff : t.kind = .error ↔ t.error?.isSome = true
  message : ∀ e ∈ t.error?, t.text = e.message
  stands : t.kind ≠ .error → ∃ after, text.slice? t.span.start t.span.stop = some t.text ∧
    text.dropBytes? t.span.stop = some after ∧ IsValue t.kind t.text after

theorem Token.isProper_ofError (text : Text) (e : LexError) : (ofError e).IsProper text where
  error_iff := by simp [ofError]
  message := by simp [ofError]
  stands noError := absurd rfl noError

theorem Token.isProper_piece {kind : TokenKind} {value after : Text} (noError : kind ≠ .error)
    (suits : IsValue kind value after)
    (short : size (taken ++ (value ++ after)) ≤ Span.limit) :
    (piece kind taken value).IsProper (taken ++ (value ++ after)) where
  error_iff := by simp [piece, noError]
  message := by simp [piece]
  stands _ := by
    rw [← List.append_assoc] at short ⊢
    rw [span_piece (Nat.le_trans (size_le_append _ _) short)]
    refine ⟨after, ?_, dropBytes?_append _ _, suits⟩
    rw [size_append]
    exact slice?_append _ _ _

theorem textPieces_isProper {t after : Text} (suits : t ≠ [] → IsValue .text t after)
    (short : size (taken ++ (t ++ after)) ≤ Span.limit) :
    ∀ u ∈ textPieces taken t, u.IsProper (taken ++ (t ++ after)) := by
  intro u member
  obtain ⟨nonempty, rfl⟩ := mem_textPieces.mp member
  exact Token.isProper_piece nofun (suits nonempty) short

theorem Moves.isProper (moves : Moves taken mode moved rest tokens next)
    (short : size (taken ++ (moved ++ rest)) ≤ Span.limit) :
    ∀ t ∈ tokens, t.IsProper (taken ++ (moved ++ rest)) := by
  cases moves with
  | lead lead u =>
      refine textPieces_isProper ?_ short
      intro nonempty
      exact ⟨nonempty, lead.1, Or.inr ⟨List.prefix_append _ _, lead.2⟩⟩
  | opening | closing =>
      intro t member
      rw [List.mem_singleton.mp member]
      exact Token.isProper_piece nofun rfl short
  | toClosing | toNumber =>
      intro t member
      cases member
  | number numeral stop =>
      intro t member
      rw [List.mem_singleton.mp member]
      exact Token.isProper_piece nofun ⟨numeral, stop⟩ short

theorem Halts.isProper {s : Step} (halts : Halts taken mode rest s)
    (short : size (taken ++ rest) ≤ Span.limit) : ∀ t ∈ s.tokens, t.IsProper (taken ++ rest) := by
  intro t member
  cases halts with
  | last plain =>
      rcases List.mem_append.mp member with piece | ending
      · have whole : size (taken ++ (rest ++ [])) ≤ Span.limit := by simpa using short
        have proper : ∀ u ∈ textPieces taken rest, u.IsProper (taken ++ (rest ++ [])) :=
          textPieces_isProper (fun nonempty => ⟨nonempty, plain, Or.inl rfl⟩) whole
        simpa using proper t piece
      · have whole : size (taken ++ rest ++ ([] ++ [])) ≤ Span.limit := by simpa using short
        have proper : (Token.piece .endOfInput (taken ++ rest) []).IsProper
            (taken ++ rest ++ ([] ++ [])) := Token.isProper_piece nofun ⟨rfl, rfl⟩ whole
        rw [List.mem_singleton.mp ending, ← Token.piece_endOfInput]
        simpa using proper
  | offence =>
      rw [List.mem_singleton.mp member]
      exact Token.isProper_ofError _ _

theorem Yields.isProper (yields : Yields mode taken rest tokens)
    (short : size (taken ++ rest) ≤ Span.limit) : ∀ t ∈ tokens, t.IsProper (taken ++ rest) := by
  induction yields with
  | halt halts => exact halts.isProper short
  | go moves _ ih =>
      rw [List.append_assoc] at ih
      exact List.forall_mem_append.mpr ⟨moves.isProper short, ih short⟩

/-! ## The tokens of a text -/

/-- The tokens of a text form a sentence, and each of them is proper. -/
theorem lex_mem_sentence (name : Text) {text : Text} (short : text.size ≤ Span.limit) :
    ∃ tokens, lex name text = .ok tokens ∧
      tokens.map (·.kind) ∈ TokenKind.sentence.matches' ∧ ∀ t ∈ tokens, t.IsProper text := by
  obtain ⟨tokens, lexed, yields⟩ := exists_lex name (fits_of_size_le short)
  exact ⟨tokens, lexed, yields.mem_phrase, yields.isProper short⟩

/-- Adjacent numbers, and braces that open no block. -/
theorem lex_mem_sentence_of_adjacent :
    ∃ tokens, lex [] ['{', 'a', '{', '{', '+', '1', '2', '-', '3', '}', '}', '}'] = .ok tokens ∧
      tokens.map (·.kind) ∈ TokenKind.sentence.matches' ∧
      ∀ t ∈ tokens, t.IsProper ['{', 'a', '{', '{', '+', '1', '2', '-', '3', '}', '}', '}'] :=
  lex_mem_sentence [] (by decide)

end TemplateLexer
