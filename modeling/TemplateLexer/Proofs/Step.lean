import TemplateLexer.Lexer.Step
import TemplateLexer.Proofs.Reader

/-!
# What a step does

A step of the lexer starts with an empty lexeme.  Its mode promises something about
the rest of the text (`Mode.Ready`): the delimiter modes start at their delimiter, and
the number mode at the first character of a number.

`Moves` lists what a step can do to the rest under this promise, one constructor for
each way it can go.  Plain text goes up to the leftmost left delimiter or to the end.
In a block blanks go first, and then the next characters decide.  A step is announced,
and then it tells of its tokens in order (`Step.announced`).

* `Mode.step_eq_of_moves`, `Mode.step_eq_of_halts`: the step in a mode has exactly the
  result of `Moves` or `Halts`.
* `exists_way`: a mode that is ready goes one of these ways.
* `Moves.ready`: the next mode is ready for the rest it gets.
* `Moves.distance_lt`: the next mode is nearer to the end of the run.

Everything about runs is proved from `Moves`.  No other module unfolds a step.
-/

namespace TemplateLexer

open Text

/-! ## Parts of a template -/

/-- Text that opens no block. -/
def IsPlain (t : Text) : Prop := ¬ leftDelimiter <:+: t

/-- Plain text that a left delimiter can follow.  A brace at its end would be the first
brace of an earlier delimiter. -/
def IsLead (t : Text) : Prop := IsPlain t ∧ t.getLast? ≠ some '{'

instance (t : Text) : Decidable (IsPlain t) := inferInstanceAs (Decidable (¬ _))

instance (t : Text) : Decidable (IsLead t) := inferInstanceAs (Decidable (_ ∧ _))

theorem isPlain_nil : IsPlain [] := by simp [IsPlain, leftDelimiter]

/-- Whether a character may stand between the delimiters of a block. -/
def isFiller (c : Char) : Bool := isBlank c || startsNumber c

theorem isFiller_of_isBlank {c : Char} (blank : isBlank c = true) : isFiller c = true := by
  rw [isFiller, blank, Bool.true_or]

theorem isFiller_of_startsNumber {c : Char} (starts : startsNumber c = true) :
    isFiller c = true := by
  rw [isFiller, starts, Bool.or_true]

/-- A filler neither ends the line nor begins a delimiter. -/
theorem ne_of_isFiller {c : Char} (filler : isFiller c = true) : c ≠ '\n' ∧ c ≠ '}' := by
  constructor
  · rintro rfl
    exact absurd filler (by decide)
  · rintro rfl
    exact absurd filler (by decide)

/-- Blanks, or no character. -/
def IsGap (t : Text) : Prop := ∀ c ∈ t, isBlank c = true

instance (t : Text) : Decidable (IsGap t) := List.decidableBAll _ t

/-- Digits with a sign or without, or a sign alone. -/
def IsNumeral (t : Text) : Prop :=
  t ≠ [] ∧ ∃ sign digits, t = sign ++ digits ∧ sign.length ≤ 1 ∧
    (∀ c ∈ sign, isSign c = true) ∧ ∀ c ∈ digits, c.isDigit = true

/-- The first character of a number starts one. -/
theorem IsNumeral.exists_cons (numeral : IsNumeral t) :
    ∃ c u, t = c :: u ∧ startsNumber c = true := by
  obtain ⟨nonempty, sign, digits, rfl, short, signs, allDigits⟩ := numeral
  cases sign with
  | nil =>
      obtain ⟨c, digits, rfl⟩ := List.exists_cons_of_ne_nil nonempty
      have digit := allDigits c (by simp)
      exact ⟨c, digits, rfl, by rw [startsNumber, digit, Bool.or_true]⟩
  | cons c sign =>
      have signed := signs c (by simp)
      exact ⟨c, sign ++ digits, rfl, by rw [startsNumber, signed, Bool.true_or]⟩

/-- A rest of a block that cannot be completed, split after the character that shows it.
There is none at the end of the text. -/
inductive Offends : LexError.Cause → Text → Text → Prop where
  | ended : Offends .unclosedBlock [] []
  | newline (after : Text) : Offends .unclosedBlock ['\n'] after
  | unexpected {c : Char} {after : Text} (notBlank : isBlank c = false) (notNewline : c ≠ '\n')
      (noNumber : startsNumber c = false) (notClosing : ¬ rightDelimiter <+: c :: after) :
      Offends (.unexpectedCharacter c) [c] after

/-! ## The leftmost left delimiter -/

/-- The leftmost delimiter after a lead is the one right behind it. -/
theorem IsLead.offsetOf? {t : Text} (lead : IsLead t) (u : Text) :
    Text.offsetOf? leftDelimiter (t ++ (leftDelimiter ++ u)) = some (size t) := by
  refine offsetOf?_eq_some_iff.mpr ⟨⟨t, u, by simp, rfl⟩, ?_⟩
  rintro _ ⟨before, after, same, rfl⟩
  rw [List.append_assoc] at same
  rcases List.append_eq_append_iff.mp same with ⟨moved, rfl, _⟩ | ⟨inner, rfl, overlap⟩
  · simp
  -- a delimiter that begins before the end of the lead lies in it or reaches out of it
  · match inner, overlap with
    | [], _ => simp
    | [c], overlap =>
        have brace : c = '{' := (List.cons.inj overlap).1.symm
        exact absurd (by simp [brace]) lead.2
    | c :: d :: inner, overlap =>
        have braces : c = '{' ∧ d = '{' := by
          simp only [leftDelimiter, List.cons_append, List.cons.injEq] at overlap
          exact ⟨overlap.1.symm, overlap.2.1.symm⟩
        obtain ⟨rfl, rfl⟩ := braces
        exact absurd ⟨before, inner, by simp [leftDelimiter]⟩ lead.1

/-- The text before the leftmost delimiter is a lead. -/
theorem isLead_of_isLeast {t u : Text}
    (least : IsLeast (occurrences leftDelimiter (t ++ leftDelimiter ++ u)) (size t)) :
    IsLead t := by
  constructor
  · rintro ⟨before, after, rfl⟩
    have earlier := least.2 ⟨before, after ++ leftDelimiter ++ u, by simp, rfl⟩
    simp [leftDelimiter] at earlier
    have := Char.utf8Size_pos '{'
    omega
  · intro brace
    obtain ⟨before, rfl⟩ := List.getLast?_eq_some_iff.mp brace
    have earlier := least.2 ⟨before, '{' :: u, by simp [leftDelimiter], rfl⟩
    simp at earlier
    have := Char.utf8Size_pos '{'
    omega

/-- A text is plain, or a lead and a delimiter begin it. -/
theorem isPlain_or_exists_lead (t : Text) :
    IsPlain t ∨ ∃ lead u, t = lead ++ (leftDelimiter ++ u) ∧ IsLead lead := by
  cases found : Text.offsetOf? leftDelimiter t with
  | none => exact Or.inl (offsetOf?_eq_none_iff.mp found)
  | some n =>
      obtain ⟨⟨lead, u, rfl, rfl⟩, lower⟩ := offsetOf?_eq_some_iff.mp found
      exact Or.inr ⟨lead, u, by simp, isLead_of_isLeast ⟨⟨lead, u, rfl, rfl⟩, lower⟩⟩

/-! ## The ways a step can go -/

/-- The token of a lexeme. -/
def Token.piece (kind : TokenKind) (taken t : Text) : Token :=
  { kind, span := Span.between (size taken) (size (taken ++ t)), text := t }

/-- In a text that is not too long the ends of the span are the offsets themselves. -/
theorem Token.span_piece {kind : TokenKind} {taken t : Text}
    (short : size (taken ++ t) ≤ Span.limit) :
    (piece kind taken t).span = ⟨size taken, size (taken ++ t)⟩ :=
  Span.between_of_le (size_le_append taken t) short

theorem Token.piece_endOfInput (taken : Text) :
    Token.piece .endOfInput taken [] = .ofEnd (size taken) := by
  simp [piece, ofEnd, Span.point]

/-- The token of plain text, if there is any. -/
def textPieces (taken t : Text) : List Token := if t = [] then [] else [.piece .text taken t]

theorem mem_textPieces {taken t : Text} {u : Token} :
    u ∈ textPieces taken t ↔ t ≠ [] ∧ u = .piece .text taken t := by
  by_cases empty : t = []
  · simp [textPieces, empty]
  · simp [textPieces, empty]

/-- The event of a token. -/
def Event.ofToken (t : Token) : Event :=
  match t.error? with
  | some e => failed e
  | none => emitted t.kind t.span

/-- A step that tells of its tokens, and of nothing else. -/
def Step.telling (r : Reader) (tokens : List Token) (next? : Option Mode) : Step :=
  ⟨r, tokens, tokens.map Event.ofToken, next?⟩

/-- A step that is announced, and then tells of its tokens. -/
def Step.announced (mode : Mode) (pos : Nat) (r : Reader) (tokens : List Token)
    (next? : Option Mode) : Step :=
  ⟨r, tokens, .step mode pos :: tokens.map Event.ofToken, next?⟩

@[simp] theorem Step.reader_announced (mode : Mode) (pos : Nat) (r : Reader) (tokens : List Token)
    (next? : Option Mode) : (announced mode pos r tokens next?).reader = r := rfl

@[simp] theorem Step.tokens_announced (mode : Mode) (pos : Nat) (r : Reader) (tokens : List Token)
    (next? : Option Mode) : (announced mode pos r tokens next?).tokens = tokens := rfl

@[simp] theorem Step.next?_announced (mode : Mode) (pos : Nat) (r : Reader) (tokens : List Token)
    (next? : Option Mode) : (announced mode pos r tokens next?).next? = next? := rfl

/-- A step is announced at its place, and tells of its tokens behind that. -/
theorem Mode.step_of_act {mode : Mode} {r r' : Reader} {tokens : List Token}
    {next? : Option Mode} (acts : mode.act r = .ok (.telling r' tokens next?)) :
    mode.step r = .ok (.announced mode r.pos r' tokens next?) := by
  rw [Mode.step, acts]
  rfl

/-- What a mode relies on about the rest of the text. -/
def Mode.Ready : Mode → Text → Prop
  | text, _ | block, _ => True
  | opening, rest => leftDelimiter <+: rest
  | closing, rest => rightDelimiter <+: rest
  | number, rest => ∃ c ∈ rest.head?, startsNumber c = true

/-- A step in a mode, after what was taken, that goes on.  It moves over a part of the
text to the rest, makes tokens and names the next mode. -/
inductive Moves (taken : Text) : Mode → Text → Text → List Token → Mode → Prop where
  | lead {t : Text} (lead : IsLead t) (u : Text) :
      Moves taken .text t (leftDelimiter ++ u) (textPieces taken t) .opening
  | opening (u : Text) :
      Moves taken .opening leftDelimiter u [.piece .leftDelimiter taken leftDelimiter] .block
  | toClosing {gap : Text} (blank : IsGap gap) (u : Text) :
      Moves taken .block gap (rightDelimiter ++ u) [] .closing
  | toNumber {gap : Text} (blank : IsGap gap) {c : Char} (starts : startsNumber c = true)
      (u : Text) : Moves taken .block gap (c :: u) [] .number
  | closing (u : Text) :
      Moves taken .closing rightDelimiter u [.piece .rightDelimiter taken rightDelimiter] .text
  | number {t u : Text} (numeral : IsNumeral t) (stop : ∀ c ∈ u.head?, c.isDigit = false) :
      Moves taken .number t u [.piece .number taken t] .block

/-- The width of the last read after blanks.  The blanks were read one at a time. -/
def widthAfterGap (gap : Text) (width? : Option Nat) : Option Nat :=
  if gap = [] then width? else some 1

/-- The width of the last read after a step to the next mode.  Only a step to a right
delimiter leaves one. -/
def Mode.widthAfter (next : Mode) (moved : Text) (width? : Option Nat) : Option Nat :=
  if next = closing then widthAfterGap moved width? else none

open Reader in
/-- A step in a mode, after what was taken and at the rest, that ends the run. -/
inductive Halts (taken : Text) : Mode → Text → Step → Prop where
  | last {t : Text} (plain : IsPlain t) :
      Halts taken .text t
        (.announced .text (size taken) (holding (taken ++ t) [] [])
          (textPieces taken t ++ [.ofEnd (size (taken ++ t))]) none)
  | offence {gap : Text} (blank : IsGap gap) {cause : LexError.Cause} {bad after : Text}
      (offends : Offends cause bad after) :
      Halts taken .block (gap ++ (bad ++ after))
        (.announced .block (size taken) (holding (taken ++ gap) bad after (some (size bad)))
          [.ofError ⟨cause, Span.between (size (taken ++ gap)) (size (taken ++ gap ++ bad))⟩]
          none)

namespace Step

open Reader

variable {taken held rest : Text} {width? : Option Nat}

/-! ## Making tokens -/

theorem make_holding {kind : TokenKind} (noError : kind ≠ .error) :
    make kind (holding taken held rest width?) =
      .ok (.piece kind taken held, .ofToken (.piece kind taken held),
        holding (taken ++ held) [] rest width?) := by
  simp only [make, takeLexeme_holding, Token.ofText, if_neg noError, bind, Except.bind, pure,
    Except.pure]
  rfl

theorem makeAndGo_holding {kind : TokenKind} (noError : kind ≠ .error) (next : Mode) :
    makeAndGo kind next (holding taken held rest width?) =
      .ok (.telling (holding (taken ++ held) [] rest width?) [.piece kind taken held]
        (some next)) := by
  simp only [makeAndGo, make_holding noError, bind, Except.bind, pure, Except.pure]
  rfl

theorem makeIfAny_holding :
    makeIfAny .text (holding taken held rest width?) =
      .ok (textPieces taken held, (textPieces taken held).map .ofToken,
        holding (taken ++ held) [] rest width?) := by
  by_cases empty : held = []
  · subst empty
    simp [makeIfAny, textPieces, pure, Except.pure]
  · have text : TokenKind.text ≠ .error := nofun
    simp [makeIfAny, textPieces, empty, make_holding text, bind, Except.bind, pure, Except.pure]

/-! ## Steps as they move -/

theorem text_eq_of_lead {t u : Text} (lead : IsLead t)
    (fits : (taken ++ (t ++ (leftDelimiter ++ u))).Fits) :
    text (holding taken [] (t ++ (leftDelimiter ++ u)) width?) =
      .ok (.telling (holding (taken ++ t) [] (leftDelimiter ++ u)) (textPieces taken t)
        (some .opening)) := by
  have found : (holding taken [] (t ++ (leftDelimiter ++ u)) width?).seek leftDelimiter =
      .ok (true, holding taken ([] ++ t) (leftDelimiter ++ u)) :=
    seek_holding_of_found (lead.offsetOf? u) (by simpa using fits)
  simp only [text, found, List.nil_append, makeIfAny_holding, bind, Except.bind, pure, Except.pure,
    if_true]
  rfl

theorem text_eq_of_plain {t : Text} (plain : IsPlain t) :
    text (holding taken [] t width?) =
      .ok (.telling (holding (taken ++ t) [] [])
        (textPieces taken t ++ [.ofEnd (size (taken ++ t))]) none) := by
  have absent : (holding taken [] t width?).seek leftDelimiter =
      .ok (false, holding taken ([] ++ t) []) :=
    seek_holding_of_not_found (offsetOf?_eq_none_iff.mpr plain)
  have ending : TokenKind.endOfInput ≠ .error := nofun
  simp only [text, absent, List.nil_append, makeIfAny_holding, make_holding ending, bind,
    Except.bind, pure, Except.pure, Bool.false_eq_true, if_false, List.append_nil,
    Token.piece_endOfInput, telling, List.map_append, List.map_cons, List.map_nil]

theorem opening_eq {u : Text} (fits : (taken ++ (leftDelimiter ++ u)).Fits) :
    opening (holding taken [] (leftDelimiter ++ u) width?) =
      .ok (.telling (holding (taken ++ leftDelimiter) [] u)
        [.piece .leftDelimiter taken leftDelimiter] (some .block)) := by
  have noError : TokenKind.leftDelimiter ≠ .error := nofun
  have skipped : (holding taken [] (leftDelimiter ++ u) width?).skip leftDelimiter.size =
      .ok (holding taken ([] ++ leftDelimiter) u) := skip_holding (by simpa using fits)
  simp only [opening, skipped, makeAndGo_holding noError, bind, Except.bind, List.nil_append]

theorem closing_eq {u : Text} (fits : (taken ++ (rightDelimiter ++ u)).Fits) :
    closing (holding taken [] (rightDelimiter ++ u) width?) =
      .ok (.telling (holding (taken ++ rightDelimiter) [] u)
        [.piece .rightDelimiter taken rightDelimiter] (some .text)) := by
  have noError : TokenKind.rightDelimiter ≠ .error := nofun
  have skipped : (holding taken [] (rightDelimiter ++ u) width?).skip rightDelimiter.size =
      .ok (holding taken ([] ++ rightDelimiter) u) := skip_holding (by simpa using fits)
  simp only [closing, skipped, makeAndGo_holding noError, bind, Except.bind, List.nil_append]

theorem not_closing_of_isFiller {c : Char} (filler : isFiller c = true) (t : Text) :
    rightDelimiter.isPrefixOf (c :: t) = false := by
  by_contra closing
  rw [Bool.not_eq_false, List.isPrefixOf_iff_prefix, rightDelimiter,
    List.cons_prefix_cons] at closing
  exact (ne_of_isFiller filler).2 closing.1.symm

/-- A blank is dropped. -/
theorem blockWithin_of_isBlank {c : Char} (blank : isBlank c = true)
    (fits : (taken ++ [] ++ c :: rest).Fits) (bound : Nat) :
    blockWithin (bound + 1) (holding taken [] (c :: rest) width?) =
      blockWithin bound (holding (taken ++ [c]) [] rest (some c.utf8Size)) := by
  have filler : isFiller c = true := isFiller_of_isBlank blank
  have noNewline : c ≠ '\n' := (ne_of_isFiller filler).1
  simp only [blockWithin, bind, Except.bind, isAt_holding, not_closing_of_isFiller filler,
    Bool.false_eq_true, if_false, read_holding_cons fits, if_neg noNewline, blank, if_true,
    dropLexeme_holding, List.nil_append]

theorem utf8Size_of_isBlank {c : Char} (blank : isBlank c = true) : c.utf8Size = 1 := by
  simp only [isBlank, Bool.or_eq_true, decide_eq_true_eq] at blank
  rcases blank with rfl | rfl
  · rfl
  · rfl

theorem blockWithin_of_isGap {gap : Text} (blank : IsGap gap) (fits : (taken ++ (gap ++ rest)).Fits)
    (bound : Nat) :
    blockWithin (gap.length + bound) (holding taken [] (gap ++ rest) width?) =
      blockWithin bound (holding (taken ++ gap) [] rest (widthAfterGap gap width?)) := by
  induction gap generalizing taken width? with
  | nil => simp [widthAfterGap]
  | cons c gap ih =>
      have first : isBlank c = true := blank c (by simp)
      have later : IsGap gap := fun d member => blank d (by simp [member])
      have inText : (taken ++ [] ++ c :: (gap ++ rest)).Fits := by simpa using fits
      have inText' : (taken ++ [c] ++ (gap ++ rest)).Fits := by simpa using fits
      have width : widthAfterGap gap (some c.utf8Size) = widthAfterGap (c :: gap) width? := by
        simp [widthAfterGap, utf8Size_of_isBlank first]
      rw [List.length_cons, Nat.add_right_comm, List.cons_append,
        blockWithin_of_isBlank first inText, ih later inText', width]
      simp

/-- Blanks are dropped one at a time, and then there is a round left. -/
theorem block_eq_of_isGap {gap : Text} (width? : Option Nat) (blank : IsGap gap)
    (fits : (taken ++ (gap ++ rest)).Fits) :
    ∃ bound, block (holding taken [] (gap ++ rest) width?) =
      blockWithin (bound + 1) (holding (taken ++ gap) [] rest (widthAfterGap gap width?)) := by
  refine ⟨taken.length + rest.length, ?_⟩
  rw [← blockWithin_of_isGap blank fits, block]
  congr 1
  simp only [holding, List.length_append, List.length_nil]
  omega

theorem block_eq_of_closing {gap u : Text} (blank : IsGap gap)
    (fits : (taken ++ (gap ++ (rightDelimiter ++ u))).Fits) :
    block (holding taken [] (gap ++ (rightDelimiter ++ u)) width?) =
      .ok (.telling (holding (taken ++ gap) [] (rightDelimiter ++ u) (widthAfterGap gap width?)) []
        (some .closing)) := by
  obtain ⟨bound, rounds⟩ := block_eq_of_isGap width? blank fits
  have starts : rightDelimiter.isPrefixOf (rightDelimiter ++ u) = true :=
    List.isPrefixOf_iff_prefix.mpr (List.prefix_append _ _)
  simp only [rounds, blockWithin, bind, Except.bind, isAt_holding, starts, if_true,
    hasLexeme_holding]
  rfl

theorem isBlank_eq_false_of_startsNumber {c : Char} (starts : startsNumber c = true) :
    isBlank c = false := by
  by_contra blank
  simp only [isBlank, Bool.not_eq_false, Bool.or_eq_true, decide_eq_true_eq] at blank
  rcases blank with rfl | rfl
  · exact absurd starts (by decide)
  · exact absurd starts (by decide)

theorem block_eq_of_number {gap u : Text} {c : Char} (blank : IsGap gap)
    (starts : startsNumber c = true) (fits : (taken ++ (gap ++ c :: u)).Fits) :
    block (holding taken [] (gap ++ c :: u) width?) =
      .ok (.telling (holding (taken ++ gap) [] (c :: u)) [] (some .number)) := by
  obtain ⟨bound, rounds⟩ := block_eq_of_isGap width? blank fits
  have filler : isFiller c = true := isFiller_of_startsNumber starts
  have noNewline : c ≠ '\n' := (ne_of_isFiller filler).1
  have noBlank : isBlank c = false := isBlank_eq_false_of_startsNumber starts
  have inText : (taken ++ gap ++ [] ++ c :: u).Fits := by simpa using fits
  simp only [rounds, blockWithin, bind, Except.bind, isAt_holding, not_closing_of_isFiller filler,
    Bool.false_eq_true, if_false, read_holding_cons inText, if_neg noNewline, noBlank, starts,
    if_true, unread_holding]
  rfl

theorem block_eq_of_offends {gap bad after : Text} {cause : LexError.Cause} (blank : IsGap gap)
    (offends : Offends cause bad after) (fits : (taken ++ (gap ++ (bad ++ after))).Fits) :
    block (holding taken [] (gap ++ (bad ++ after)) width?) =
      .ok (.telling (holding (taken ++ gap) bad after (some (size bad)))
        [.ofError ⟨cause, Span.between (size (taken ++ gap)) (size (taken ++ gap ++ bad))⟩]
        none) := by
  obtain ⟨bound, rounds⟩ := block_eq_of_isGap width? blank fits
  have inText : (taken ++ gap ++ [] ++ (bad ++ after)).Fits := by simpa using fits
  cases offends with
  | ended =>
      have noClosing : rightDelimiter.isPrefixOf ([] : Text) = false := rfl
      simp only [List.append_nil] at rounds ⊢
      simp only [rounds, blockWithin, isAt_holding, noClosing, Bool.false_eq_true, if_false,
        read_holding_nil, haltWith, lastSpan_holding_zero, bind, Except.bind]
      simp [pure, Except.pure, Span.point, telling, Event.ofToken, Token.ofError]
  | newline after =>
      have noClosing : rightDelimiter.isPrefixOf ('\n' :: after) = false := rfl
      simp only [List.cons_append, List.nil_append] at rounds inText ⊢
      simp only [rounds, blockWithin, isAt_holding, noClosing, Bool.false_eq_true, if_false,
        read_holding_cons inText, if_true, haltWith, lastSpan_holding, bind, Except.bind]
      simp [pure, Except.pure, telling, Event.ofToken, Token.ofError]
  | @unexpected c after notBlank notNewline noNumber notClosing =>
      have noClosing : rightDelimiter.isPrefixOf (c :: after) = false := by
        rwa [← Bool.not_eq_true, List.isPrefixOf_iff_prefix]
      simp only [List.cons_append, List.nil_append] at rounds inText ⊢
      simp only [rounds, blockWithin, isAt_holding, noClosing, Bool.false_eq_true, if_false,
        read_holding_cons inText, if_neg notNewline, notBlank, noNumber, haltWith,
        lastSpan_holding, bind, Except.bind]
      simp [pure, Except.pure, telling, Event.ofToken, Token.ofError]

theorem isSign_eq_false_of_isDigit {c : Char} (digit : c.isDigit = true) : isSign c = false := by
  by_contra sign
  simp only [isSign, Bool.not_eq_false, Bool.or_eq_true, decide_eq_true_eq] at sign
  rcases sign with rfl | rfl
  · exact absurd digit (by decide)
  · exact absurd digit (by decide)

theorem number_eq {t u : Text} (numeral : IsNumeral t) (stop : ∀ c ∈ u.head?, c.isDigit = false)
    (fits : (taken ++ (t ++ u)).Fits) :
    number (holding taken [] (t ++ u) width?) =
      .ok (.telling (holding (taken ++ t) [] u) [.piece .number taken t] (some .block)) := by
  obtain ⟨nonempty, sign, digits, rfl, short, signs, allDigits⟩ := numeral
  have noError : TokenKind.number ≠ .error := nofun
  match sign, short with
  | [], _ =>
      obtain ⟨c, digits, rfl⟩ := List.exists_cons_of_ne_nil nonempty
      have noSign := isSign_eq_false_of_isDigit (allDigits c (by simp))
      have fits' : (taken ++ [] ++ c :: (digits ++ u)).Fits := by simpa using fits
      have kept : (holding taken [] (c :: (digits ++ u)) width?).readIf isSign =
          .ok (false, holding taken [] (c :: (digits ++ u))) :=
        readIf_holding_of_invalid noSign fits'
      have digitsRead : (holding taken [] (c :: digits ++ u)).readWhile Char.isDigit =
          .ok (holding taken ([] ++ c :: digits) u) :=
        readWhile_holding allDigits stop (by simpa using fits)
      simp only [List.nil_append, List.cons_append] at digitsRead ⊢
      simp only [number, kept, digitsRead, makeAndGo_holding noError, bind, Except.bind]
  | [c], _ =>
      have signed := signs c (by simp)
      have fits' : (taken ++ [] ++ c :: (digits ++ u)).Fits := by simpa using fits
      have signRead : (holding taken [] (c :: (digits ++ u)) width?).readIf isSign =
          .ok (true, holding taken ([] ++ [c]) (digits ++ u) (some c.utf8Size)) :=
        readIf_holding_of_valid signed fits'
      have digitsRead : (holding taken [c] (digits ++ u) (some c.utf8Size)).readWhile Char.isDigit =
          .ok (holding taken ([c] ++ digits) u) :=
        readWhile_holding allDigits stop (by simpa using fits)
      simp only [List.nil_append, List.cons_append] at signRead digitsRead ⊢
      simp only [number, signRead, digitsRead, makeAndGo_holding noError, bind, Except.bind]

end Step

variable {taken rest : Text} {mode next : Mode} {width? : Option Nat}

/-- A step that goes on does what `Moves` says. -/
theorem Mode.step_eq_of_moves {moved : Text} {tokens : List Token}
    (moves : Moves taken mode moved rest tokens next) (fits : (taken ++ (moved ++ rest)).Fits) :
    mode.step (Reader.holding taken [] (moved ++ rest) width?) =
      .ok (.announced mode (size taken)
        (Reader.holding (taken ++ moved) [] rest (next.widthAfter moved width?)) tokens
        (some next)) := by
  have acts : mode.act (Reader.holding taken [] (moved ++ rest) width?) =
      .ok (.telling (Reader.holding (taken ++ moved) [] rest (next.widthAfter moved width?)) tokens
        (some next)) := by
    cases moves with
    | lead lead u => exact Step.text_eq_of_lead lead fits
    | opening => exact Step.opening_eq fits
    | toClosing blank u => exact Step.block_eq_of_closing blank fits
    | toNumber blank starts u => exact Step.block_eq_of_number blank starts fits
    | closing => exact Step.closing_eq fits
    | number numeral stop => exact Step.number_eq numeral stop fits
  rw [Mode.step_of_act acts, Reader.pos_holding_nil]

/-- A step that ends the run does what `Halts` says. -/
theorem Mode.step_eq_of_halts {s : Step} (halts : Halts taken mode rest s)
    (fits : (taken ++ rest).Fits) :
    mode.step (Reader.holding taken [] rest width?) = .ok s := by
  have pos : (Reader.holding taken [] rest width?).pos = size taken := Reader.pos_holding_nil
  cases halts with
  | last plain =>
      rw [← pos]
      exact Mode.step_of_act (Step.text_eq_of_plain plain)
  | offence blank offends =>
      rw [← pos]
      exact Mode.step_of_act (Step.block_eq_of_offends blank offends fits)

/-! ## Every step goes one of these ways -/

theorem exists_block_way (taken rest : Text) :
    (∃ moved after tokens next, rest = moved ++ after ∧
      Moves taken .block moved after tokens next) ∨ ∃ s, Halts taken .block rest s := by
  obtain ⟨gap, rest, rfl, blank, stop⟩ := exists_split_of_valid isBlank rest
  by_cases closing : rightDelimiter <+: rest
  · obtain ⟨u, rfl⟩ := closing
    exact Or.inl ⟨gap, _, _, _, rfl, .toClosing blank u⟩
  cases rest with
  | nil => exact Or.inr ⟨_, .offence blank .ended⟩
  | cons c u =>
      by_cases starts : startsNumber c = true
      · exact Or.inl ⟨gap, _, _, _, rfl, .toNumber blank starts u⟩
      by_cases newline : c = '\n'
      · subst newline
        exact Or.inr ⟨_, .offence blank (.newline u)⟩
      · have notBlank : isBlank c = false := stop c rfl
        exact Or.inr ⟨_, .offence blank
          (.unexpected notBlank newline (by simpa using starts) closing)⟩

theorem exists_numeral {c : Char} (starts : startsNumber c = true) (u : Text) :
    ∃ t rest, c :: u = t ++ rest ∧ IsNumeral t ∧ ∀ d ∈ rest.head?, d.isDigit = false := by
  obtain ⟨digits, rest, rfl, allDigits, stop⟩ := exists_split_of_valid Char.isDigit u
  refine ⟨c :: digits, rest, rfl, ⟨by simp, ?_⟩, stop⟩
  cases sign : isSign c with
  | true => exact ⟨[c], digits, rfl, by simp, by simpa using sign, allDigits⟩
  | false =>
      have digit : c.isDigit = true := by simpa [startsNumber, sign] using starts
      exact ⟨[], c :: digits, rfl, by simp, by simp, by simpa [digit] using allDigits⟩

/-- A mode that is ready goes on or ends the run. -/
theorem exists_way (taken : Text) (ready : mode.Ready rest) :
    (∃ moved after tokens next, rest = moved ++ after ∧
      Moves taken mode moved after tokens next) ∨ ∃ s, Halts taken mode rest s := by
  cases mode with
  | text =>
      rcases isPlain_or_exists_lead rest with plain | ⟨t, u, rfl, lead⟩
      · exact Or.inr ⟨_, .last plain⟩
      · exact Or.inl ⟨t, _, _, _, rfl, .lead lead u⟩
  | opening =>
      obtain ⟨u, rfl⟩ := ready
      exact Or.inl ⟨_, u, _, _, rfl, .opening u⟩
  | block => exact exists_block_way taken rest
  | closing =>
      obtain ⟨u, rfl⟩ := ready
      exact Or.inl ⟨_, u, _, _, rfl, .closing u⟩
  | number =>
      obtain ⟨c, head, starts⟩ := ready
      obtain ⟨u, rfl⟩ := List.head?_eq_some_iff.mp head
      obtain ⟨t, after, same, numeral, stop⟩ := exists_numeral starts u
      exact Or.inl ⟨t, after, _, _, same, .number numeral stop⟩

/-! ## What all steps have in common -/

/-- Tokens of which the last ends the run and no other does. -/
inductive EndsOnce : List Token → Prop where
  | last {t : Token} (ends : t.endsRun = true) : EndsOnce [t]
  | cons {t : Token} {ts : List Token} (goes : t.endsRun = false) (ends : EndsOnce ts) :
      EndsOnce (t :: ts)

theorem EndsOnce.append {front ts : List Token} (goes : ∀ t ∈ front, t.endsRun = false)
    (ends : EndsOnce ts) : EndsOnce (front ++ ts) := by
  induction front with
  | nil => exact ends
  | cons t front ih =>
      exact .cons (goes t (by simp)) (ih fun u member => goes u (by simp [member]))

theorem EndsOnce.ne_nil {ts : List Token} (ends : EndsOnce ts) : ts ≠ [] := by
  cases ends with
  | last | cons => exact List.cons_ne_nil _ _

/-- The last token, and the others in front of it. -/
theorem EndsOnce.exists_concat {ts : List Token} (ends : EndsOnce ts) :
    ∃ front last, ts = front ++ [last] ∧ (∀ t ∈ front, t.endsRun = false) ∧
      last.endsRun = true := by
  induction ends with
  | @last t ends => exact ⟨[], t, rfl, List.forall_mem_nil _, ends⟩
  | @cons t ts goes _ ih =>
      obtain ⟨front, last, rfl, others, ends⟩ := ih
      exact ⟨t :: front, last, rfl, List.forall_mem_cons.mpr ⟨goes, others⟩, ends⟩

theorem textPieces_goes (taken t : Text) : ∀ u ∈ textPieces taken t, u.endsRun = false := by
  intro u member
  obtain ⟨_, rfl⟩ := mem_textPieces.mp member
  rfl

/-- No token of a step that goes on ends the run. -/
theorem Moves.goes {moved : Text} {tokens : List Token}
    (moves : Moves taken mode moved rest tokens next) : ∀ t ∈ tokens, t.endsRun = false := by
  intro t member
  cases moves with
  | lead => exact textPieces_goes _ _ t member
  | opening | closing | number =>
      rw [List.mem_singleton.mp member]
      rfl
  | toClosing | toNumber => simp at member

/-- The last token of a step that ends the run ends it. -/
theorem Halts.endsOnce {s : Step} (halts : Halts taken mode rest s) : EndsOnce s.tokens := by
  cases halts with
  | last => exact .append (textPieces_goes _ _) (.last rfl)
  | offence => exact .last rfl

theorem Halts.next_eq_none {s : Step} (halts : Halts taken mode rest s) : s.next? = none := by
  cases halts with
  | last => rfl
  | offence => rfl

/-- The step that ends a run leaves the text as it is. -/
theorem Halts.text_eq {s : Step} (halts : Halts taken mode rest s) :
    s.reader.text = taken ++ rest := by
  cases halts with
  | last => simp [Reader.holding]
  | offence => simp [Reader.holding]

/-- The next mode is ready for the rest. -/
theorem Moves.ready {moved : Text} {tokens : List Token}
    (moves : Moves taken mode moved rest tokens next) : next.Ready rest := by
  cases moves with
  | lead lead u => exact List.prefix_append _ _
  | opening | closing | number => trivial
  | toClosing blank u => exact List.prefix_append _ _
  | toNumber blank starts u => exact ⟨_, rfl, starts⟩

/-- Whether a step in a mode can make no token. -/
def Mode.isQuiet : Mode → Bool
  | text | block => true
  | opening | closing | number => false

/-- A step that makes no token leads to one that does. -/
theorem Moves.speaks {moved : Text} {tokens : List Token}
    (moves : Moves taken mode moved rest tokens next) (silent : tokens = []) :
    mode.isQuiet = true ∧ next.isQuiet = false := by
  cases moves with
  | lead | toClosing | toNumber => exact ⟨rfl, rfl⟩
  | opening | closing | number => cases silent

/-- How far a run is from its end: by the text that is left, and then by whether the mode
can hand over to another without moving. -/
def Mode.distance (mode : Mode) (rest : Text) : Nat :=
  2 * rest.length + if mode.isQuiet then 1 else 0

/-- A step that goes on brings the run nearer to its end. -/
theorem Moves.distance_lt {moved : Text} {tokens : List Token}
    (moves : Moves taken mode moved rest tokens next) :
    next.distance rest < mode.distance (moved ++ rest) := by
  cases moves with
  | number numeral =>
      have := List.length_pos_iff.mpr numeral.1
      simp only [Mode.distance, Mode.isQuiet, List.length_append]
      grind
  | lead | opening | toClosing | toNumber | closing =>
      simp only [Mode.distance, Mode.isQuiet, List.length_append, leftDelimiter, rightDelimiter]
      grind

/-- A step moves over a byte for every token it makes. -/
theorem Moves.length_le {moved : Text} {tokens : List Token}
    (moves : Moves taken mode moved rest tokens next) : tokens.length ≤ size moved := by
  cases moves with
  | @lead t =>
      rw [textPieces]
      split
      · exact Nat.zero_le _
      · next nonempty => exact Reader.size_pos nonempty
  | opening => exact (by decide : 1 ≤ size leftDelimiter)
  | closing => exact (by decide : 1 ≤ size rightDelimiter)
  | toClosing | toNumber => exact Nat.zero_le _
  | number numeral => exact Reader.size_pos numeral.1

/-- The step that ends a run makes one token that is about no byte. -/
theorem Halts.length_le {s : Step} (halts : Halts taken mode rest s) :
    s.tokens.length ≤ size rest + 1 := by
  cases halts with
  | @last t =>
      rw [textPieces]
      split
      · simp
      · next nonempty =>
          have := Reader.size_pos nonempty
          simpa using Nat.succ_le_of_lt this
  | offence => simp

end TemplateLexer
