import TemplateLexer.Proofs.Extension

/-!
# Texts in a row

A lexer remembers nothing of a block once it is closed.  So the tokens of a text behind a
closed block are those that the text has on its own, further on.

*Moving.*  A run does not depend on what was taken before it, except that this counts in
the spans.  A longer text in front shifts every span by the same number of bytes
(`Yields.shift`).  This relies on the offsets being small enough, since a large end of a
span is cut off and does not shift.

*Joining.*  A run that ends behind a right delimiter ends in text with nothing left.  There
the run of another text begins (`Yields.exists_join`).
-/

namespace TemplateLexer

open Text

/-! ## Moving spans -/

/-- The span with `n` bytes more in front. -/
def Span.shift (n : Nat) (s : Span) : Span := ⟨n + s.start, n + s.stop⟩

def LexError.shift (n : Nat) (e : LexError) : LexError := { e with span := e.span.shift n }

/-- The token with `n` bytes more in front.  An error shifts along with its token. -/
def Token.shift (n : Nat) (t : Token) : Token :=
  { t with span := t.span.shift n, error? := t.error?.map (LexError.shift n) }

theorem Span.shift_between {n start stop : Nat} (ordered : start ≤ stop)
    (short : n + stop ≤ limit) : (between start stop).shift n = between (n + start) (n + stop) := by
  have inText : stop ≤ limit := Nat.le_trans (Nat.le_add_left _ _) short
  rw [between_of_le ordered inText, between_of_le (Nat.add_le_add_left ordered n) short, shift]

theorem Token.shift_piece {kind : TokenKind} {taken t pre : Text}
    (short : size (pre ++ (taken ++ t)) ≤ Span.limit) :
    (piece kind taken t).shift (size pre) = piece kind (pre ++ taken) t := by
  rw [size_append] at short
  rw [shift, piece, Span.shift_between (size_le_append taken t) short, ← size_append,
    ← size_append, ← List.append_assoc]
  rfl

theorem Token.shift_ofEnd {n m : Nat} (short : n + m ≤ Span.limit) :
    (ofEnd m).shift n = ofEnd (n + m) := by
  rw [shift, ofEnd, Span.point, Span.shift_between (Nat.le_refl m) short]
  rfl

theorem Token.shift_ofError {n : Nat} {e : LexError} :
    (ofError e).shift n = ofError (e.shift n) := rfl

variable {mode next : Mode} {taken moved rest pre : Text} {tokens : List Token}

theorem shift_textPieces {t : Text} (short : size (pre ++ (taken ++ t)) ≤ Span.limit) :
    (textPieces taken t).map (Token.shift (size pre)) = textPieces (pre ++ taken) t := by
  by_cases empty : t = []
  · rw [textPieces, textPieces, if_pos empty, if_pos empty]
    rfl
  · rw [textPieces, textPieces, if_neg empty, if_neg empty, List.map_singleton,
      Token.shift_piece short]

/-- A step behind more text. -/
theorem Moves.shift (moves : Moves taken mode moved rest tokens next)
    (short : size (pre ++ (taken ++ moved)) ≤ Span.limit) :
    Moves (pre ++ taken) mode moved rest (tokens.map (Token.shift (size pre))) next := by
  cases moves with
  | lead lead u =>
      rw [shift_textPieces short]
      exact .lead lead u
  | opening =>
      rw [List.map_singleton, Token.shift_piece short]
      exact .opening _
  | toClosing blank u => exact .toClosing blank u
  | toNumber blank starts u => exact .toNumber blank starts u
  | closing =>
      rw [List.map_singleton, Token.shift_piece short]
      exact .closing _
  | number numeral stop =>
      rw [List.map_singleton, Token.shift_piece short]
      exact .number numeral stop

/-- The step that ends a run behind more text. -/
theorem Halts.shift {s : Step} (halts : Halts taken mode rest s)
    (short : size (pre ++ (taken ++ rest)) ≤ Span.limit) :
    Yields mode (pre ++ taken) rest (s.tokens.map (Token.shift (size pre))) := by
  cases halts with
  | last plain =>
      have ending : size pre + size (taken ++ rest) ≤ Span.limit := by rwa [size_append] at short
      rw [Step.tokens_announced, List.map_append, List.map_singleton, shift_textPieces short,
        Token.shift_ofEnd ending, ← size_append, ← List.append_assoc]
      exact .halt (.last plain)
  | @offence gap blank cause bad after offends =>
      have inText : size pre + size (taken ++ gap ++ bad) ≤ Span.limit := by
        simp only [size_append] at short ⊢
        omega
      rw [Step.tokens_announced, List.map_singleton, Token.shift_ofError, LexError.shift,
        Span.shift_between (size_le_append _ _) inText, ← size_append, ← size_append]
      have halts : Halts (pre ++ taken) .block (gap ++ (bad ++ after)) _ := .offence blank offends
      simpa using Yields.halt halts

/-- The tokens of a run behind more text. -/
theorem Yields.shift (yields : Yields mode taken rest tokens)
    (short : size (pre ++ (taken ++ rest)) ≤ Span.limit) :
    Yields mode (pre ++ taken) rest (tokens.map (Token.shift (size pre))) := by
  -- what was taken and the rest make up one text all along, and its size bounds every span
  induction yields with
  | halt halts => exact halts.shift short
  | @go mode next taken moved rest tokens later moves _ ih =>
      have inText : size (pre ++ (taken ++ moved)) ≤ Span.limit := by
        simp only [size_append] at short ⊢
        omega
      have behind := ih (by rwa [List.append_assoc])
      rw [← List.append_assoc] at behind
      rw [List.map_append]
      exact .go (moves.shift inText) behind

/-! ## Joining runs -/

/-- Behind a right delimiter the end of input is the whole ending. -/
theorem Ending.eq_of_rightDelimiter {front before : List Token} {right last : Token}
    (ending : Ending taken mode rest tokens) (made : front ++ tokens = before ++ [right, last])
    (closes : right.kind = .rightDelimiter) (ended : last.kind = .endOfInput) :
    mode = .text ∧ rest = [] ∧ tokens = [.ofEnd (size taken)] := by
  cases ending with
  | halts halts =>
      cases halts with
      | last =>
          by_cases empty : rest = []
          · subst empty
            exact ⟨rfl, rfl, by simp [textPieces]⟩
          · rw [textPieces, if_neg empty] at made
            obtain ⟨_, same⟩ := List.append_inj' made rfl
            rw [← (List.cons.inj same).1] at closes
            cases closes
      | offence =>
          rw [List.append_cons before] at made
          obtain ⟨_, same⟩ := List.append_inj' made rfl
          rw [← List.singleton_inj.mp same] at ended
          cases ended
  | number =>
      obtain ⟨_, same⟩ := List.append_inj' made rfl
      obtain ⟨_, failed⟩ := List.cons.inj same
      rw [← List.singleton_inj.mp failed] at ended
      cases ended

/-- The tokens of a text end with a right delimiter and the end of input. -/
def IsClosed (tokens : List Token) : Prop :=
  ∃ front right last, tokens = front ++ [right, last] ∧ right.kind = .rightDelimiter ∧
    last.kind = .endOfInput

/-- Behind a closed block the run of another text begins. -/
theorem Yields.exists_join {s : Text} (yields : Yields .text [] s tokens)
    (closed : s = [] ∨ IsClosed tokens) :
    ∃ front, tokens = front ++ [.ofEnd (size s)] ∧
      ∀ u later, Yields .text s u later → Yields .text [] (s ++ u) (front ++ later) := by
  rcases closed with rfl | ⟨before, right, last, made, closes, ended⟩
  · have nothing : Yields .text [] [] [.ofEnd 0] := .halt (.last isPlain_nil)
    have fits : Text.Fits [] := by decide
    exact ⟨[], yields.unique fits nothing, fun u later behind => behind⟩
  · obtain ⟨moved, after, front, tail, next, rfl, rfl, ending, extend⟩ := yields.exists_ending
    obtain ⟨rfl, rfl, rfl⟩ := ending.eq_of_rightDelimiter made closes ended
    refine ⟨front, by simp, ?_⟩
    intro u later behind
    rw [List.append_nil] at behind
    exact extend u later behind

/-- The tokens of a text that begins behind a closed block are its own, shifted. -/
theorem lex_append_of_isClosed (name : Text) {s t : Text} (short : (s ++ t).size ≤ Span.limit)
    (closed : s = [] ∨ ∃ tokens, lex name s = .ok tokens ∧ IsClosed tokens) :
    ∃ front last tokens, lex name s = .ok (front ++ [last]) ∧ last.kind = .endOfInput ∧
      lex name t = .ok tokens ∧
      lex name (s ++ t) = .ok (front ++ tokens.map (Token.shift s.size)) := by
  have fits : (s ++ t).Fits := fits_of_size_le short
  have fitsBoth : s.Fits ∧ t.Fits := by
    simp only [Fits, size_append] at fits ⊢
    omega
  obtain ⟨tokens, lexed, yields⟩ := exists_lex name fitsBoth.1
  obtain ⟨tokens', lexed', yields'⟩ := exists_lex name fitsBoth.2
  have closed' : s = [] ∨ IsClosed tokens := by
    rcases closed with empty | ⟨made, lexedClosed, isClosed⟩
    · exact Or.inl empty
    · rw [lexed, Except.ok.injEq] at lexedClosed
      exact Or.inr (lexedClosed ▸ isClosed)
  obtain ⟨front, rfl, join⟩ := yields.exists_join closed'
  have moved : Yields .text (s ++ []) t (tokens'.map (Token.shift s.size)) := yields'.shift short
  rw [List.append_nil] at moved
  exact ⟨front, _, tokens', lexed, rfl, lexed',
    (lex_eq_ok_iff name fits).mpr (join t _ moved)⟩

/-- The error of a wide character behind a closed block. -/
theorem lex_append_of_isClosed_of_wide :
    ∃ front last tokens, lex [] ['{', '{', '1', '}', '}'] = .ok (front ++ [last]) ∧
      last.kind = .endOfInput ∧ lex [] ['a', '{', '{', 'é'] = .ok tokens ∧
      lex [] ['{', '{', '1', '}', '}', 'a', '{', '{', 'é'] =
        .ok (front ++ tokens.map (Token.shift 5)) := by
  have lexed : lex [] ['{', '{', '1', '}', '}'] =
      .ok [⟨.leftDelimiter, ⟨0, 2⟩, leftDelimiter, none⟩, ⟨.number, ⟨2, 3⟩, ['1'], none⟩,
        ⟨.rightDelimiter, ⟨3, 5⟩, rightDelimiter, none⟩, .ofEnd 5] := by decide +kernel
  have closed : IsClosed
      [⟨.leftDelimiter, ⟨0, 2⟩, leftDelimiter, none⟩, ⟨.number, ⟨2, 3⟩, ['1'], none⟩,
        ⟨.rightDelimiter, ⟨3, 5⟩, rightDelimiter, none⟩, .ofEnd 5] :=
    ⟨[_, _], _, _, rfl, rfl, rfl⟩
  exact lex_append_of_isClosed [] (s := ['{', '{', '1', '}', '}']) (t := ['a', '{', '{', 'é'])
    (by decide) (Or.inr ⟨_, lexed, closed⟩)

end TemplateLexer
