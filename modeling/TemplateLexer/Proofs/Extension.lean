import Mathlib.Data.List.Basic
import TemplateLexer.Proofs.Yield

/-!
# Texts that go on

A text is lexed, and then more text arrives behind it.  Most of the tokens stay.  A step
that goes on looks at what it moves over and at what decides that it ends there.  So the
step is the same with more text behind, unless it is a number that the text ends with
(`Moves.extend`).

The tokens of a text are those that stay whatever follows, and an *ending*
(`Yields.exists_ending`).  The ending is made by the step that ends the run, or by a last
number and the error behind it.  Of its tokens only text and numbers up to the end of the
text do not end the run, and these may change.  An error stays if it is about a character,
but for a closing brace that another one may follow.
-/

namespace TemplateLexer

open Text

variable {mode next : Mode} {taken moved rest : Text} {tokens : List Token}

/-! ## What stays -/

/-- A step stays the same in front of more text.  A number at the end may grow. -/
theorem Moves.extend (moves : Moves taken mode moved rest tokens next) (u : Text)
    (ends : mode = .number → rest ≠ []) : Moves taken mode moved (rest ++ u) tokens next := by
  cases moves with
  | lead lead v =>
      rw [List.append_assoc]
      exact .lead lead (v ++ u)
  | opening => exact .opening _
  | toClosing blank v =>
      rw [List.append_assoc]
      exact .toClosing blank (v ++ u)
  | toNumber blank starts v => exact .toNumber blank starts (v ++ u)
  | closing => exact .closing _
  | number numeral stop =>
      obtain ⟨d, v, rfl⟩ := List.exists_cons_of_ne_nil (ends rfl)
      exact .number numeral stop

/-- An error about a character stays.  A closing brace may get the one that it lacks. -/
theorem Offends.extend {cause : LexError.Cause} {bad after : Text}
    (offends : Offends cause bad after) (nonempty : bad ≠ []) (u : Text)
    (decided : cause = .unexpectedCharacter '}' → after ≠ []) :
    Offends cause bad (after ++ u) := by
  cases offends with
  | ended => exact absurd rfl nonempty
  | newline => exact .newline _
  | unexpected notBlank notNewline noNumber notClosing =>
      refine .unexpected notBlank notNewline noNumber ?_
      intro closing
      obtain ⟨rfl, brace⟩ := List.cons_prefix_cons.mp closing
      obtain ⟨d, after, rfl⟩ := List.exists_cons_of_ne_nil (decided rfl)
      obtain ⟨rfl, _⟩ := List.cons_prefix_cons.mp brace
      exact notClosing ⟨after, rfl⟩

/-! ## Endings -/

/-- What may change if a text goes on: the step that ends the run, or a number that ends the
text, and the error that its block is not closed. -/
inductive Ending (taken : Text) : Mode → Text → List Token → Prop where
  | halts {mode : Mode} {rest : Text} {s : Step} (halts : Halts taken mode rest s) :
      Ending taken mode rest s.tokens
  | number {t : Text} (numeral : IsNumeral t) :
      Ending taken .number t
        [.piece .number taken t, .ofError ⟨.unclosedBlock, Span.point (size (taken ++ t))⟩]

theorem Ending.ne_nil (ending : Ending taken mode rest tokens) : tokens ≠ [] := by
  cases ending with
  | halts halts => exact halts.endsOnce.ne_nil
  | number => exact List.cons_ne_nil _ _

/-- The mode of an ending is ready for its rest and more. -/
theorem Ending.ready (ending : Ending taken mode rest tokens) (u : Text) :
    mode.Ready (rest ++ u) := by
  cases ending with
  | halts halts =>
      cases halts with
      | last | offence => trivial
  | number numeral =>
      obtain ⟨c, v, rfl, starts⟩ := numeral.exists_cons
      exact ⟨c, rfl, starts⟩

/-- A block at the end of the text is not closed. -/
theorem Yields.eq_of_block_nil (yields : Yields .block taken [] tokens) :
    tokens = [.ofError ⟨.unclosedBlock, Span.point (size taken)⟩] := by
  generalize nothing : ([] : Text) = rest at yields
  cases yields with
  | halt halts =>
      cases halts with
      | offence blank offends =>
          obtain ⟨rfl, offending⟩ := List.append_eq_nil_iff.mp nothing.symm
          obtain ⟨rfl, rfl⟩ := List.append_eq_nil_iff.mp offending
          cases offends with
          | ended => simp [Span.point]
  | go moves =>
      cases moves with
      | toClosing => simp [rightDelimiter] at nothing
      | toNumber => simp at nothing

/-- The tokens before the ending stay, whatever text follows. -/
theorem Yields.exists_ending (yields : Yields mode taken rest tokens) :
    ∃ moved after front tail next, rest = moved ++ after ∧ tokens = front ++ tail ∧
      Ending (taken ++ moved) next after tail ∧
      ∀ u later, Yields next (taken ++ moved) (after ++ u) later →
        Yields mode taken (rest ++ u) (front ++ later) := by
  induction yields with
  | @halt mode taken rest s halts =>
      refine ⟨[], rest, [], s.tokens, mode, rfl, rfl, ?_, ?_⟩
      · rw [List.append_nil]
        exact .halts halts
      · intro u later yields
        rwa [List.append_nil] at yields
  | @go mode next taken moved rest tokens later moves yields ih =>
      by_cases last : mode = .number ∧ rest = []
      -- the number may grow, so it belongs to the ending
      · obtain ⟨rfl, rfl⟩ := last
        cases moves with
        | number numeral =>
            refine ⟨[], moved, [], _, .number, List.append_nil _, rfl, ?_, ?_⟩
            · rw [yields.eq_of_block_nil, List.append_nil]
              exact .number numeral
            · intro u later yields
              simpa using yields
      · obtain ⟨moved', after, front, tail, last', rfl, rfl, ending, extend⟩ := ih
        refine ⟨moved ++ moved', after, tokens ++ front, tail, last', by simp, by simp, ?_, ?_⟩
        · rwa [← List.append_assoc]
        · intro u later yields
          rw [← List.append_assoc] at yields
          have stays : mode = .number → moved' ++ after ≠ [] :=
            fun number empty => last ⟨number, empty⟩
          have behind := extend u later yields
          rw [List.append_assoc moved, List.append_assoc tokens]
          exact .go (moves.extend u stays) behind

/-! ## What the ending may change -/

/-- A token that stays whatever text follows: a delimiter, or a token before the end. -/
def Token.IsSettled (text : Text) (t : Token) : Prop :=
  t.kind = .leftDelimiter ∨ t.kind = .rightDelimiter ∨ t.span.stop < text.size

theorem Token.not_isSettled_piece {kind : TokenKind} {t : Text}
    (grows : kind = .text ∨ kind = .number) (short : size (taken ++ t) ≤ Span.limit) :
    ¬ (piece kind taken t).IsSettled (taken ++ t) := by
  rw [IsSettled, span_piece short]
  rcases grows with rfl | rfl
  · simp [piece]
  · simp [piece]

/-- No token of an ending is settled, but for the one that ends the run. -/
theorem Ending.not_isSettled (ending : Ending taken mode rest tokens)
    (short : size (taken ++ rest) ≤ Span.limit) :
    ∀ t ∈ tokens, t.endsRun = false → ¬ t.IsSettled (taken ++ rest) := by
  intro t member goes
  cases ending with
  | halts halts =>
      cases halts with
      | last =>
          rcases List.mem_append.mp member with piece | ended
          · obtain ⟨_, rfl⟩ := mem_textPieces.mp piece
            exact Token.not_isSettled_piece (Or.inl rfl) short
          · rw [List.mem_singleton.mp ended] at goes
            cases goes
      | offence =>
          rw [List.mem_singleton.mp member] at goes
          cases goes
  | number =>
      rcases List.mem_cons.mp member with rfl | failed
      · exact Token.not_isSettled_piece (Or.inr rfl) short
      · rw [List.mem_singleton.mp failed] at goes
        cases goes

/-- An ending stays if its error is about a character, and this is not a closing brace at the
end of the text. -/
theorem Ending.yields_of_error (ending : Ending taken mode rest tokens)
    (short : size (taken ++ rest) ≤ Span.limit) {last : Token} {e : LexError}
    (ends : tokens.getLast? = some last) (failed : last.error? = some e)
    (covers : e.span.isEmpty = false)
    (decided : ¬ (e.cause = .unexpectedCharacter '}' ∧ e.span.stop = size (taken ++ rest)))
    (u : Text) : Yields mode taken (rest ++ u) tokens := by
  cases ending with
  | halts halts =>
      cases halts with
      | last =>
          rw [Step.tokens_announced, List.getLast?_concat, Option.some.injEq] at ends
          rw [← ends] at failed
          cases failed
      | @offence gap blank cause bad after offends =>
          cases ends
          cases failed
          have inText : size (taken ++ gap ++ bad) ≤ Span.limit := by
            simp only [size_append] at short ⊢
            omega
          rw [Span.between_of_le (size_le_append _ _) inText] at covers decided
          have nonempty : bad ≠ [] := by
            rintro rfl
            simp [Span.isEmpty] at covers
          have more : cause = .unexpectedCharacter '}' → after ≠ [] := by
            rintro brace rfl
            exact decided ⟨brace, by simp⟩
          have halts : Halts taken .block (gap ++ (bad ++ (after ++ u))) _ :=
            .offence blank (offends.extend nonempty u more)
          simpa using Yields.halt halts
  | number =>
      cases ends
      cases failed
      simp [Span.isEmpty, Span.point, Span.between] at covers

/-! ## The tokens of a text that goes on -/

/-- With more text behind, every token that is settled stays at its place.  All tokens stay
after an error about a character, but for a closing brace that ended the text. -/
theorem lex_append_settled (name : Text) {s t : Text} (short : (s ++ t).size ≤ Span.limit) :
    ∃ tokens tokens', lex name s = .ok tokens ∧ lex name (s ++ t) = .ok tokens' ∧
      (∀ (i : Nat) (token : Token), tokens[i]? = some token → token.endsRun = false →
        token.IsSettled s → tokens'[i]? = some token) ∧
      ∀ last e, tokens.getLast? = some last → last.error? = some e → e.span.isEmpty = false →
        ¬ (e.cause = .unexpectedCharacter '}' ∧ e.span.stop = s.size) → tokens' = tokens := by
  have short' : s.size ≤ Span.limit := by
    rw [size_append] at short
    omega
  have fits : s.Fits := fits_of_size_le short'
  have fits' : (s ++ t).Fits := fits_of_size_le short
  obtain ⟨tokens, lexed, yields⟩ := exists_lex name fits
  obtain ⟨tokens', lexed', yields'⟩ := exists_lex name fits'
  obtain ⟨moved, after, front, tail, next, rfl, rfl, ending, extend⟩ := yields.exists_ending
  refine ⟨front ++ tail, tokens', lexed, lexed', ?_, ?_⟩
  · intro i token here goes settled
    obtain ⟨later, behind⟩ := exists_yields ([] ++ moved) (ending.ready t)
    rw [yields'.unique fits' (extend t later behind)]
    by_cases early : i < front.length
    · rwa [List.getElem?_append_left early] at here ⊢
    · rw [List.getElem?_append_right (Nat.le_of_not_lt early)] at here
      exact absurd settled (ending.not_isSettled short' token (List.mem_of_getElem? here) goes)
  · intro last e ends failed covers decided
    rw [List.getLast?_append_of_ne_nil _ ending.ne_nil] at ends
    have behind := ending.yields_of_error short' ends failed covers decided t
    exact yields'.unique fits' (extend t tail behind)

/-- A number before the end stays at its place, and so does the error of a wide character. -/
theorem lex_append_settled_of_wide :
    ∃ tokens tokens', lex [] ['{', '{', '1', 'é'] = .ok tokens ∧
      lex [] ['{', '{', '1', 'é', '}', '}'] = .ok tokens' ∧
      tokens'[1]? = some ⟨.number, ⟨2, 3⟩, ['1'], none⟩ ∧ tokens' = tokens := by
  obtain ⟨tokens, tokens', lexed, lexed', stays, failed⟩ :=
    lex_append_settled [] (s := ['{', '{', '1', 'é']) (t := ['}', '}']) (by decide)
  refine ⟨tokens, tokens', lexed, lexed', ?_⟩
  have made : lex [] ['{', '{', '1', 'é'] =
      .ok [⟨.leftDelimiter, ⟨0, 2⟩, leftDelimiter, none⟩, ⟨.number, ⟨2, 3⟩, ['1'], none⟩,
        .ofError ⟨.unexpectedCharacter 'é', ⟨3, 5⟩⟩] := by decide +kernel
  rw [made, Except.ok.injEq] at lexed
  subst lexed
  have early : Token.IsSettled ['{', '{', '1', 'é'] ⟨.number, ⟨2, 3⟩, ['1'], none⟩ :=
    Or.inr (Or.inr (by decide))
  exact ⟨stays 1 _ rfl rfl early, failed _ _ rfl rfl rfl (by decide)⟩

end TemplateLexer
