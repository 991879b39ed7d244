import TemplateLexer.Output.Listing
import TemplateLexer.Proofs.Quoted
import TemplateLexer.Proofs.Record

/-!
# The line of a token

A line ends with its only line feed, and what is in front of it is made of words, blanks,
quoted texts and the message of an error.  None of these has a line feed in it.  The
character of a message is written as it is, unless it is a control, and a line feed is one.

With spans, a line determines its token up to the width of the display (`line_inj`).  The
span and the kind are words in columns, and numerals and names determine what they stand
for.  The display is read by the kind.

* The message of an error determines its cause, since a code point determines its character.
* The display of any other text is quoted.  It ends at its closing quotation mark, and the
  dots behind that say whether the text was cut.
-/

namespace TemplateLexer

open Text

/-! ## Kinds and spans -/

theorem TokenKind.isWord_name (kind : TokenKind) : IsWord kind.name := by
  cases kind <;> decide

theorem TokenKind.name_inj {kind kind' : TokenKind} (same : kind.name = kind'.name) :
    kind = kind' := by
  revert same
  cases kind <;> cases kind' <;> decide

namespace Span

theorem isWord_text (s : Span) : IsWord s.text :=
  .append (.append (isWord_decimal _) (by decide)) (isWord_decimal _)

theorem text_ne_nil (s : Span) : s.text ≠ [] := by
  simp [text]

/-- A written span determines the span. -/
theorem text_inj {s s' : Span} (same : s.text = s'.text) : s = s' := by
  have digits (n : Nat) : '.' ∉ decimal n := by
    intro member
    exact absurd (Nat.isDigit_of_mem_toDigits (by decide) (by decide) member) (by decide)
  simp only [text, List.append_assoc, List.cons_append, List.nil_append] at same
  obtain ⟨starts, rests⟩ := append_cons_inj (digits _) (digits _) same
  cases s
  cases s'
  exact Span.mk.injEq .. ▸ ⟨decimal_inj starts, decimal_inj (List.cons.inj rests).2⟩

end Span

/-! ## Messages -/

namespace LexError.Cause

/-- The part of a message behind the code point. -/
theorem message_unexpectedCharacter (c : Char) :
    ∃ shown, (unexpectedCharacter c).message =
        "unexpected character in block: ".toList ++ (codePoint c ++ shown) ∧
      '\n' ∉ shown ∧ ∃ more, shown ++ [' '] = ' ' :: more := by
  refine ⟨_, List.append_assoc _ _ _, ?_⟩
  cases control : isControl c with
  | true => exact ⟨List.not_mem_nil, [], rfl⟩
  | false =>
      refine ⟨?_, ['\'', c, '\'', ' '], rfl⟩
      have printed : '\n' ≠ c := by
        rintro rfl
        cases control
      simp [printed]

/-- There is no line feed in a message. -/
theorem newline_not_mem_message (cause : LexError.Cause) : '\n' ∉ cause.message := by
  cases cause with
  | unclosedBlock => decide
  | unexpectedCharacter c =>
      obtain ⟨shown, message, oneLine, -⟩ := message_unexpectedCharacter c
      have words : '\n' ∉ "unexpected character in block: ".toList := by decide
      rw [message, List.mem_append, List.mem_append, not_or, not_or]
      exact ⟨words, (isWord_codePoint c).not_mem rfl, oneLine⟩

/-- A message determines the cause.  Its code point ends at a blank or with the message. -/
theorem message_inj {cause cause' : LexError.Cause} (same : cause.message = cause'.message) :
    cause = cause' := by
  have differ (c : Char) : unclosedBlock.message ≠ (unexpectedCharacter c).message := by
    obtain ⟨shown, message, -⟩ := message_unexpectedCharacter c
    intro same
    have fronts := congrArg (List.take 3) (same.trans message)
    rw [List.take_append_of_le_length (by decide)] at fronts
    exact absurd fronts (by decide)
  cases cause with
  | unclosedBlock =>
      cases cause' with
      | unclosedBlock => rfl
      | unexpectedCharacter d => exact absurd same (differ d)
  | unexpectedCharacter c =>
      cases cause' with
      | unclosedBlock => exact absurd same.symm (differ c)
      | unexpectedCharacter d =>
          obtain ⟨shown, message, -, more, blank⟩ := message_unexpectedCharacter c
          obtain ⟨shown', message', -, more', blank'⟩ := message_unexpectedCharacter d
          rw [message, message', List.append_cancel_left_eq] at same
          have ended := congrArg (· ++ [' ']) same
          simp only [List.append_assoc, blank, blank'] at ended
          have points := append_cons_inj ((isWord_codePoint c).not_mem rfl)
            ((isWord_codePoint d).not_mem rfl) ended
          rw [codePoint_inj points.1]

end LexError.Cause

/-! ## Displays -/

/-- A text is cut by size if it is cut by the number of its characters. -/
theorem Text.size_truncate_lt_iff (t : Text) (width : Nat) :
    (t.truncate width).size < t.size ↔ width < t.length := by
  have parts : t.size = (t.truncate width).size + size (t.drop width) := by
    rw [truncate, ← size_append, List.take_append_drop]
  rw [parts, Nat.lt_add_right_iff_pos]
  constructor
  · intro cut
    apply Nat.lt_of_not_le
    intro whole
    rw [List.drop_eq_nil_of_le whole] at cut
    exact Nat.lt_irrefl 0 cut
  · intro longer
    apply Reader.size_pos
    rwa [Ne, List.drop_eq_nil_iff, Nat.not_le]

namespace Token

/-- The display of a token that does not end a run. -/
theorem display_of_goes {t : Token} (goes : t.endsRun = false) (width : Nat) :
    t.display width =
      quoted (t.text.take width) ++ if width < t.text.length then ['.', '.', '.'] else [] := by
  have shown : t.display width =
      if (t.text.truncate width).size < t.text.size then
        (t.text.truncate width).quoted ++ ['.', '.', '.']
      else (t.text.truncate width).quoted := by
    obtain ⟨kind, span, text, error?⟩ := t
    cases kind
    case error | endOfInput => cases goes
    all_goals rfl
  simp only [shown, size_truncate_lt_iff]
  split
  · rfl
  · exact (List.append_nil _).symm

/-- Two tokens are alike as far as displays of some width go. -/
structure IsAlike (width : Nat) (t u : Token) : Prop where
  kind : t.kind = u.kind
  span : t.span = u.span
  error? : t.error? = u.error?
  front : t.endsRun = false → t.text.take width = u.text.take width
  cut_iff : t.endsRun = false → (width < t.text.length ↔ width < u.text.length)

/-- A token that ends a run without an error is the end of input. -/
theorem kind_of_endsRun {t : Token} (noError : t.kind ≠ .error) (ends : t.endsRun = true) :
    t.kind = .endOfInput := by
  obtain ⟨kind, span, text, error?⟩ := t
  cases kind
  case error => exact absurd rfl noError
  case endOfInput => rfl
  all_goals cases ends

/-- A token that ends a run is the end of input, or an error with its cause. -/
theorem Told.cases_of_endsRun {t : Token} (told : t.Told) (ends : t.endsRun = true) :
    t.kind = .endOfInput ∧ t.error? = none ∨ t.kind = .error ∧ ∃ e, t.error? = some e := by
  cases told with
  | error e => exact .inr ⟨rfl, e, rfl⟩
  | other noError none => exact .inl ⟨kind_of_endsRun noError ends, none⟩

/-- There is no line feed in a display. -/
theorem newline_not_mem_display {t : Token} (told : t.Told) (width : Nat) :
    '\n' ∉ t.display width := by
  cases told with
  | error e => exact e.cause.newline_not_mem_message
  | other noError none =>
      cases goes : t.endsRun with
      | true =>
          have display : t.display width = "EOF".toList := by
            rw [display, kind_of_endsRun noError goes]
          rw [display]
          decide
      | false =>
          rw [display_of_goes goes, List.mem_append, not_or]
          refine ⟨newline_not_mem_quoted _, ?_⟩
          split <;> decide

/-- Tokens of one kind and one span are alike if their displays are the same. -/
theorem isAlike_of_display {t u : Token} {width : Nat} (told : t.Told) (told' : u.Told)
    (kind : t.kind = u.kind) (span : t.span = u.span)
    (same : t.display width = u.display width) : t.IsAlike width u := by
  cases told with
  | error e =>
      cases told' with
      | other noError => exact absurd kind.symm noError
      | error e' =>
          obtain ⟨cause, place⟩ := e
          obtain ⟨cause', place'⟩ := e'
          obtain rfl : place = place' := span
          obtain rfl : cause = cause' := LexError.Cause.message_inj same
          exact ⟨rfl, rfl, rfl, nofun, nofun⟩
  | other noError none =>
      cases told' with
      | error e' => exact absurd kind noError
      | other noError' none' =>
          have texts (goes : t.endsRun = false) : t.text.take width = u.text.take width ∧
              (width < t.text.length ↔ width < u.text.length) := by
            have goes' : u.endsRun = false := by rwa [endsRun, ← kind]
            rw [display_of_goes goes, display_of_goes goes'] at same
            obtain ⟨front, dots⟩ := quoted_append_inj same
            refine ⟨front, ?_⟩
            split at dots <;> split at dots
            next cut cut' => exact iff_of_true cut cut'
            next => cases dots
            next => cases dots
            next whole whole' => exact iff_of_false whole whole'
          exact ⟨kind, span, none.trans none'.symm, fun goes => (texts goes).1,
            fun goes => (texts goes).2⟩

end Token

/-! ## Lines -/

/-- Whether a text is one line.  It ends with a line feed, and there is no other one. -/
def Text.IsLine (t : Text) : Prop := ∃ body, t = body ++ ['\n'] ∧ '\n' ∉ body

namespace Listing

variable {settings settings' : Settings} {t u : Token}

/-- The line of a token with its columns. -/
theorem line_of_spans (spans : settings.spans = true) (t : Token) :
    line settings t = alignRight 9 ' ' t.span.text ++ ' ' :: ' ' ::
      (alignLeft 14 ' ' t.kind.name ++ ' ' :: (t.display settings.width ++ ['\n'])) := by
  rw [line, if_pos spans]
  simp only [List.append_assoc, List.cons_append, List.nil_append]

theorem isLine_header (template : Text) : IsLine (header template) := by
  refine ⟨"lexing ".toList ++ (template.truncate headerWidth).quoted ++ ['.', '.', '.'], ?_, ?_⟩
  · -- With `rw [header]` Lean would compute the text to make an equation of it.
    unfold header
    rw [List.append_assoc _ _ ['\n']]
    rfl
  · simp [newline_not_mem_quoted]

theorem isLine_line (told : t.Told) (settings : Settings) : IsLine (line settings t) := by
  have display := Token.newline_not_mem_display told settings.width
  cases spans : settings.spans with
  | true =>
      rw [line_of_spans spans]
      refine ⟨alignRight 9 ' ' t.span.text ++ ' ' :: ' ' ::
        (alignLeft 14 ' ' t.kind.name ++ ' ' :: t.display settings.width), by simp, ?_⟩
      have span : '\n' ∉ t.span.text := t.span.isWord_text.not_mem rfl
      have name : '\n' ∉ t.kind.name := t.kind.isWord_name.not_mem rfl
      simp [alignRight, alignLeft, filler, span, name, display]
  | false =>
      refine ⟨t.display settings.width, ?_, display⟩
      rw [line, if_neg (by simp [spans])]

/-- With spans, lines determine their tokens up to the width of the displays. -/
theorem line_inj (told : t.Told) (told' : u.Told) (spans : settings.spans = true)
    (spans' : settings'.spans = true) (width : settings.width = settings'.width)
    (same : line settings t = line settings' u) : t.IsAlike settings.width u := by
  rw [line_of_spans spans, line_of_spans spans', ← width] at same
  obtain ⟨span, rest⟩ := alignRight_inj t.span.isWord_text u.span.isWord_text t.span.text_ne_nil
    u.span.text_ne_nil same
  obtain ⟨kind, shown⟩ := alignLeft_inj t.kind.isWord_name u.kind.isWord_name
    (List.cons.inj rest).2
  exact Token.isAlike_of_display told told' (TokenKind.name_inj kind) (Span.text_inj span)
    (List.append_cancel_right shown)

end Listing

end TemplateLexer
