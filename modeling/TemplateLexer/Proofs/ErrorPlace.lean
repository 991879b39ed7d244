import Mathlib.Data.List.Basic
import TemplateLexer.Proofs.Template

/-!
# The place of an error

An error is about the first character that makes the text hopeless.  Up to this character
the text could still become a template, by a right delimiter.  With this character it
cannot, whatever follows.  There is one exception.  A single closing brace in a block is
an error, and yet another one behind it would complete the delimiter.

At an error the lexer is in a block.  So what may follow there is the language of a block,
and `Run.closes_iff` takes this fact from the last step of a run back to its first mode.
-/

namespace TemplateLexer

open Text

variable {taken rest : Text} {mode : Mode} {width? : Option Nat} {visits : List Visit}

theorem Moves.next_eq_opening {moved : Text} {tokens : List Token} {next : Mode}
    (moves : Moves taken .text moved rest tokens next) : next = .opening := by
  cases moves with
  | lead => rfl

/-- A run that ends with an error got to a block, and there to a rest that offends. -/
theorem Run.closes_iff (run : Run mode taken rest width? visits) {last : Token}
    (ends : (tokensOfVisits visits).getLast? = some last) (failed : last.kind = .error) :
    ∃ before cause bad after, rest = before ++ (bad ++ after) ∧ Offends cause bad after ∧
      last = .ofError
        ⟨cause, Span.between (size (taken ++ before)) (size (taken ++ before ++ bad))⟩ ∧
      (mode = .opening → leftDelimiter <+: before) ∧
      ∀ t, mode.Language (before ++ t) ↔ Closes t := by
  induction run with
  | halt halts =>
      cases halts with
      | last plain =>
          simp only [tokensOfVisits_cons, tokensOfVisits_nil, Step.tokens_announced,
            List.append_nil, List.getLast?_concat, Option.some.injEq] at ends
          rw [← ends] at failed
          cases failed
      | @offence gap blank cause bad after offends =>
          exact ⟨gap, cause, bad, after, rfl, offends, (Option.some.inj ends).symm, by simp,
            fun t => closes_body_append_iff blank.isBody⟩
  | @go mode next taken moved rest width? tokens visits moves run ih =>
      rw [tokensOfVisits_cons, List.getLast?_append_of_ne_nil _ run.endsOnce.ne_nil] at ends
      obtain ⟨before, cause, bad, after, rfl, offends, error, delimiter, language⟩ := ih ends
      refine ⟨moved ++ before, cause, bad, after, by simp, offends, by simp [error], ?_, ?_⟩
      · rintro rfl
        cases moves with
        | opening u => exact List.prefix_append _ _
      · intro t
        have behind : mode = .text → leftDelimiter <+: before ++ t := by
          rintro rfl
          exact (delimiter moves.next_eq_opening).trans (List.prefix_append _ _)
        rw [List.append_assoc, moves.language_iff behind, language]

/-! ## What an error is about -/

/-- What an error of a text is about. -/
inductive LexError.IsAbout (text : Text) : LexError → Prop where
  /-- The end of the text. -/
  | ending : IsAbout text ⟨.unclosedBlock, ⟨text.size, text.size⟩⟩
  /-- The end of a line. -/
  | newline {start stop : Nat} (there : text.slice? start stop = some ['\n']) :
      IsAbout text ⟨.unclosedBlock, ⟨start, stop⟩⟩
  /-- A character that has no place in a block.  A closing brace has one only before another
  one. -/
  | character {start stop : Nat} {c : Char} {after : Text}
      (there : text.slice? start stop = some [c]) (behind : text.dropBytes? stop = some after)
      (unexpected : c ∉ [' ', '\t', '\n', '+', '-'] ∧ c.isDigit = false)
      (alone : c = '}' → ∀ u, after ≠ '}' :: u) :
      IsAbout text ⟨.unexpectedCharacter c, ⟨start, stop⟩⟩

/-- A rest that offends is what its error is about. -/
theorem Offends.isAbout {cause : LexError.Cause} {before bad after : Text}
    (offends : Offends cause bad after) :
    LexError.IsAbout (before ++ (bad ++ after)) ⟨cause, ⟨size before, size (before ++ bad)⟩⟩ := by
  have there : slice? (before ++ (bad ++ after)) (size before) (size (before ++ bad)) =
      some bad := by
    rw [← List.append_assoc, size_append, slice?_append]
  cases offends with
  | ended =>
      have whole : LexError.IsAbout before ⟨.unclosedBlock, ⟨size before, size before⟩⟩ := .ending
      simpa using whole
  | newline after => exact .newline there
  | @unexpected c after notBlank notNewline noNumber notClosing =>
      have behind : dropBytes? (size (before ++ [c])) (before ++ ([c] ++ after)) = some after := by
        rw [← List.append_assoc, dropBytes?_append]
      refine .character there behind ?_ ?_
      · simp only [isBlank, startsNumber, isSign, Bool.or_eq_false_iff, decide_eq_false_iff_not]
          at notBlank noNumber
        exact ⟨by simp [notBlank, notNewline, noNumber], noNumber.2⟩
      · rintro rfl u rfl
        exact notClosing ⟨u, rfl⟩

/-! ## Hopeless texts -/

/-- Whether the tokens of a text end with the end of input. -/
def LexesCleanly (name text : Text) : Prop :=
  ∃ front last, lex name text = .ok (front ++ [last]) ∧ last.kind = .endOfInput

theorem lexesCleanly_iff (name : Text) {text : Text} (fits : text.Fits) :
    LexesCleanly name text ↔ Template text := by
  obtain ⟨visits, run⟩ := exists_run_of_text text
  obtain ⟨front, last, made, endOfInput, _⟩ := run.language_iff
  have lexed : lex name text = .ok (front ++ [last]) := by rw [lex_of_run name fits run, made]
  constructor
  · rintro ⟨front', last', lexed', clean⟩
    rw [lexed, Except.ok.injEq] at lexed'
    obtain ⟨_, rfl⟩ := List.append_inj' lexed' rfl |>.imp_right List.singleton_inj.mp
    exact endOfInput.mp clean
  · exact fun template => ⟨front, last, lexed, endOfInput.mpr template⟩

/-- In a block a right delimiter makes a template of what was read. -/
theorem lexesCleanly_of_closes_iff (name : Text) {before : Text}
    (fits : (before ++ rightDelimiter).Fits)
    (language : ∀ t, Template (before ++ t) ↔ Closes t) :
    LexesCleanly name (before ++ rightDelimiter) := by
  have closes : Closes (rightDelimiter ++ []) :=
    closes_delimiter_append_iff.mpr (.last isPlain_nil)
  exact (lexesCleanly_iff name fits).mpr ((language rightDelimiter).mpr closes)

/-- In a block nothing makes a template of a text with a character that offends, but for a
closing brace. -/
theorem Offends.eq_brace_of_lexesCleanly {name before bad after t : Text}
    {cause : LexError.Cause} (offends : Offends cause bad after) (nonempty : bad ≠ [])
    (fits : (before ++ bad ++ t).Fits) (language : ∀ t, Template (before ++ t) ↔ Closes t)
    (clean : LexesCleanly name (before ++ bad ++ t)) :
    cause = .unexpectedCharacter '}' ∧ ∃ u, t = '}' :: u := by
  have template := (lexesCleanly_iff name fits).mp clean
  rw [List.append_assoc, language] at template
  obtain ⟨named, _, completed⟩ := offends.eq_brace_of_closes nonempty template
  exact ⟨named, completed⟩

/-- An error is at the first character that makes the text hopeless. -/
theorem lex_error_isFirst (name : Text) {text : Text} {front : List Token} {last : Token}
    (short : text.size ≤ Span.limit) (lexed : lex name text = .ok (front ++ [last]))
    (failed : last.kind = .error) :
    ∃ e before upTo, last = .ofError e ∧ e.IsAbout text ∧
      text.takeBytes? e.span.start = some before ∧ text.takeBytes? e.span.stop = some upTo ∧
      LexesCleanly name (before ++ rightDelimiter) ∧
      (e.span.start < e.span.stop → ∀ t : Text, (upTo ++ t).Fits →
        LexesCleanly name (upTo ++ t) →
        e.cause = .unexpectedCharacter '}' ∧ ∃ u, t = '}' :: u) := by
  have fits : text.Fits := Nat.le_trans short (by decide)
  obtain ⟨visits, run⟩ := exists_run_of_text text
  have ends : (tokensOfVisits visits).getLast? = some last := by
    rw [lex_of_run name fits run, Except.ok.injEq] at lexed
    rw [lexed, List.getLast?_concat]
  obtain ⟨before, cause, bad, after, rfl, offends, rfl, _, language⟩ := run.closes_iff ends failed
  have ordered : size before ≤ size (before ++ bad) := by
    rw [size_append]
    exact Nat.le_add_right _ _
  have inText : size (before ++ bad) ≤ Span.limit := by
    simp only [size_append] at short ⊢
    omega
  rw [List.nil_append, Span.between_of_le ordered inText]
  refine ⟨_, before, before ++ bad, rfl, offends.isAbout, takeBytes?_append _ _, ?_, ?_, ?_⟩
  · rw [← List.append_assoc, takeBytes?_append]
  · refine lexesCleanly_of_closes_iff name ?_ language
    have width : size rightDelimiter = 2 := by decide
    simp only [Fits, Span.limit, Offset.limit, size_append] at inText ⊢
    omega
  · intro covers t fits' clean
    have nonempty : bad ≠ [] := by
      rintro rfl
      simp at covers
    exact offends.eq_brace_of_lexesCleanly nonempty fits' language clean

/-- A wide character in a block is hopeless, and covered as a whole. -/
theorem lex_error_isFirst_of_wide :
    ∃ e before upTo, Token.ofError ⟨.unexpectedCharacter 'é', ⟨2, 4⟩⟩ = .ofError e ∧
      e.IsAbout ['{', '{', 'é', '}', '}'] ∧
      takeBytes? e.span.start ['{', '{', 'é', '}', '}'] = some before ∧
      takeBytes? e.span.stop ['{', '{', 'é', '}', '}'] = some upTo ∧
      LexesCleanly [] (before ++ rightDelimiter) ∧
      (e.span.start < e.span.stop → ∀ t : Text, (upTo ++ t).Fits →
        LexesCleanly [] (upTo ++ t) → e.cause = .unexpectedCharacter '}' ∧ ∃ u, t = '}' :: u) := by
  have lexed : lex [] ['{', '{', 'é', '}', '}'] =
      .ok ([⟨.leftDelimiter, ⟨0, 2⟩, leftDelimiter, none⟩] ++
        [.ofError ⟨.unexpectedCharacter 'é', ⟨2, 4⟩⟩]) := by decide +kernel
  exact lex_error_isFirst [] (by decide) lexed rfl

end TemplateLexer
