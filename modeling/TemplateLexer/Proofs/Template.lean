import TemplateLexer.Proofs.Run

/-!
# The language of templates

A *template* is text with blocks in it.  A block is a left delimiter, blanks, signs and
digits in any order, and a right delimiter.  The text in front of a block is a lead, and
the text after the last block is plain.

Each mode has a language, which is what may follow in it.  In text that is a template.
In a block it is the rest of a block and a template after it.  A step that goes on takes
the language of its mode to the language of the next one (`Moves.language_iff`), so what
a run ends with is decided by the language of its first mode (`Run.language_iff`).

The step does not depend on what stands behind the place where it ended.  The one
exception is a step over a lead, which relies on the delimiter behind it.  So the
languages also decide about texts that only begin like the one that was read.
-/

namespace TemplateLexer

open Text

/-! ## Templates -/

/-- Blanks, signs and digits, or no character. -/
def IsBody (t : Text) : Prop := ∀ c ∈ t, isFiller c = true

/-- Text with blocks. -/
inductive Template : Text → Prop where
  | last {t : Text} (plain : IsPlain t) : Template t
  | block {t w u : Text} (lead : IsLead t) (body : IsBody w) (after : Template u) :
      Template (t ++ (leftDelimiter ++ (w ++ (rightDelimiter ++ u))))

/-- The rest of a block and a template after it. -/
def Closes (t : Text) : Prop :=
  ∃ w u, t = w ++ (rightDelimiter ++ u) ∧ IsBody w ∧ Template u

/-- A block closes by a right delimiter or goes on with a character of its body. -/
theorem closes_cons_iff {c : Char} {t : Text} :
    Closes (c :: t) ↔ (isFiller c = true ∧ Closes t) ∨
      ∃ u, c :: t = rightDelimiter ++ u ∧ Template u := by
  constructor
  · rintro ⟨w, u, same, body, after⟩
    cases w with
    | nil => exact Or.inr ⟨u, same, after⟩
    | cons d w =>
        obtain ⟨rfl, rest⟩ := List.cons.inj same
        have filler := List.forall_mem_cons.mp body
        exact Or.inl ⟨filler.1, w, u, rest, filler.2, after⟩
  · rintro (⟨filler, w, u, rfl, body, after⟩ | ⟨u, same, after⟩)
    · exact ⟨c :: w, u, rfl, List.forall_mem_cons.mpr ⟨filler, body⟩, after⟩
    · exact ⟨[], u, same, by simp [IsBody], after⟩

theorem closes_body_append_iff {w t : Text} (body : IsBody w) : Closes (w ++ t) ↔ Closes t := by
  induction w with
  | nil => rfl
  | cons c w ih =>
      have filler := body c (by simp)
      have noBrace : ¬ ∃ u, c :: (w ++ t) = rightDelimiter ++ u ∧ Template u := by
        rintro ⟨u, same, _⟩
        exact (ne_of_isFiller filler).2 (List.cons.inj same).1
      rw [List.cons_append, closes_cons_iff, ih fun d member => body d (by simp [member])]
      simp [filler, noBrace]

theorem closes_delimiter_append_iff {t : Text} : Closes (rightDelimiter ++ t) ↔ Template t := by
  have brace : isFiller '}' = false := by decide
  rw [rightDelimiter, List.cons_append, closes_cons_iff]
  simp [brace, rightDelimiter]

/-- Of the characters that offend only a closing brace can be completed, by another one. -/
theorem Offends.eq_brace_of_closes {cause : LexError.Cause} {bad after t : Text}
    (offends : Offends cause bad after) (nonempty : bad ≠ []) (closes : Closes (bad ++ t)) :
    cause = .unexpectedCharacter '}' ∧ bad = ['}'] ∧ ∃ u, t = '}' :: u := by
  cases offends with
  | ended => exact absurd rfl nonempty
  | newline after =>
      rw [List.cons_append, closes_cons_iff] at closes
      rcases closes with ⟨filler, _⟩ | ⟨u, same, _⟩
      · exact absurd rfl (ne_of_isFiller filler).1
      · cases (List.cons.inj same).1
  | unexpected notBlank notNewline noNumber notClosing =>
      rw [List.cons_append, closes_cons_iff] at closes
      rcases closes with ⟨filler, _⟩ | ⟨u, same, _⟩
      · rw [isFiller, notBlank, noNumber] at filler
        cases filler
      · obtain ⟨rfl, rest⟩ := List.cons.inj same
        exact ⟨rfl, rfl, u, rest⟩

/-- A rest that offends closes no block. -/
theorem Offends.not_closes {cause : LexError.Cause} {bad after : Text}
    (offends : Offends cause bad after) : ¬ Closes (bad ++ after) := by
  intro closes
  by_cases nonempty : bad ≠ []
  · obtain ⟨rfl, rfl, u, rfl⟩ := offends.eq_brace_of_closes nonempty closes
    cases offends with
    | unexpected _ _ _ notClosing => exact notClosing ⟨u, rfl⟩
  · cases offends with
    | ended =>
        obtain ⟨w, u, same, _⟩ := closes
        simp [rightDelimiter] at same
    | newline | unexpected => exact nonempty (List.cons_ne_nil _ _)

theorem IsGap.isBody {t : Text} (blank : IsGap t) : IsBody t := by
  intro c member
  exact isFiller_of_isBlank (blank c member)

theorem IsNumeral.isBody {t : Text} (numeral : IsNumeral t) : IsBody t := by
  obtain ⟨_, sign, digits, rfl, _, signs, allDigits⟩ := numeral
  intro c member
  refine isFiller_of_startsNumber ?_
  rcases List.mem_append.mp member with inSign | inDigits
  · rw [startsNumber, signs c inSign, Bool.true_or]
  · rw [startsNumber, allDigits c inDigits, Bool.or_true]

/-- The lead of a text is unique. -/
theorem IsLead.append_inj {t u t' u' : Text} (lead : IsLead t) (lead' : IsLead t')
    (same : t ++ (leftDelimiter ++ u) = t' ++ (leftDelimiter ++ u')) : t = t' ∧ u = u' := by
  have sizes : size t = size t' := by
    have found := lead.offsetOf? u
    rw [same, lead'.offsetOf?] at found
    exact (Option.some.inj found).symm
  have leads : t = t' := by
    rcases List.append_eq_append_iff.mp same with ⟨more, rfl, _⟩ | ⟨more, rfl, _⟩
    all_goals
      rw [size_append] at sizes
      cases more with
      | nil => simp
      | cons c more =>
          have := Reader.size_pos (List.cons_ne_nil c more)
          omega
  subst leads
  exact ⟨rfl, List.append_cancel_left (List.append_cancel_left same)⟩

/-- After a lead and a left delimiter there has to be a block. -/
theorem template_lead_append_iff {t u : Text} (lead : IsLead t) :
    Template (t ++ (leftDelimiter ++ u)) ↔ Closes u := by
  constructor
  · intro template
    generalize whole : t ++ (leftDelimiter ++ u) = s at template
    cases template with
    | last plain => exact absurd ⟨t, u, by simp [← whole]⟩ plain
    | block lead' body after =>
        obtain ⟨_, rfl⟩ := lead.append_inj lead' whole
        exact ⟨_, _, rfl, body, after⟩
  · rintro ⟨w, v, rfl, body, after⟩
    exact .block lead body after

/-! ## The languages of the modes -/

/-- What may follow in a mode. -/
def Mode.Language : Mode → Text → Prop
  | text, t => Template t
  | opening, t => ∃ u, t = leftDelimiter ++ u ∧ Closes u
  | block, t | closing, t | number, t => Closes t

variable {taken rest moved : Text} {mode next : Mode} {tokens : List Token} {width? : Option Nat}
  {visits : List Visit}

/-- A step in text goes on at a left delimiter. -/
theorem Moves.delimiter (moves : Moves taken mode moved rest tokens next)
    (text : mode = .text) : leftDelimiter <+: rest := by
  subst text
  cases moves with
  | lead lead u => exact List.prefix_append _ _

/-- A step that goes on takes the language of its mode to that of the next, whatever stands
behind.  A step over a lead needs a left delimiter there. -/
theorem Moves.language_iff (moves : Moves taken mode moved rest tokens next) {t : Text}
    (delimiter : mode = .text → leftDelimiter <+: t) :
    mode.Language (moved ++ t) ↔ next.Language t := by
  cases moves with
  | lead lead =>
      obtain ⟨u, rfl⟩ := delimiter rfl
      rw [Mode.Language, template_lead_append_iff lead]
      constructor
      · exact fun closes => ⟨u, rfl, closes⟩
      · rintro ⟨v, same, closes⟩
        rwa [List.append_cancel_left same]
  | opening =>
      constructor
      · rintro ⟨u, same, closes⟩
        rwa [List.append_cancel_left same]
      · exact fun closes => ⟨t, rfl, closes⟩
  | toClosing blank | toNumber blank => exact closes_body_append_iff blank.isBody
  | closing => exact closes_delimiter_append_iff
  | number numeral => exact closes_body_append_iff numeral.isBody

/-- A run ends with the end of input on the language of its mode, and with an error on any
other text. -/
theorem Run.language_iff (run : Run mode taken rest width? visits) :
    ∃ front last, tokensOfVisits visits = front ++ [last] ∧
      (last.kind = .endOfInput ↔ mode.Language rest) ∧
      (last.kind = .error ↔ ¬ mode.Language rest) := by
  induction run with
  | @halt mode taken rest width? s halts =>
      cases halts with
      | last plain =>
          have template : Mode.text.Language rest := .last plain
          refine ⟨_, .ofEnd (size (taken ++ rest)), List.append_nil _, ?_, ?_⟩
          · simp [Token.ofEnd, template]
          · simp [Token.ofEnd, template]
      | @offence gap blank cause bad after offends =>
          have outside : ¬ Mode.block.Language (gap ++ (bad ++ after)) :=
            fun closes => offends.not_closes ((closes_body_append_iff blank.isBody).mp closes)
          refine ⟨[], _, rfl, ?_, ?_⟩
          · simp [Token.ofError, outside]
          · simp [Token.ofError, outside]
  | @go mode next taken moved rest width? tokens visits moves run ih =>
      obtain ⟨front, last, made, endOfInput, error⟩ := ih
      have language := moves.language_iff moves.delimiter
      refine ⟨tokens ++ front, last, by simp [made], ?_, ?_⟩
      · rw [language, endOfInput]
      · rw [language, error]

/-! ## The language of the lexer -/

/-- The lexer ends with the end of input on templates, and with an error on all other texts. -/
theorem lex_accepts_iff (name : Text) {text : Text} (fits : text.Fits) :
    ∃ front last, lex name text = .ok (front ++ [last]) ∧
      (last.kind = .endOfInput ↔ Template text) ∧ (last.kind = .error ↔ ¬ Template text) := by
  obtain ⟨visits, run⟩ := exists_run_of_text text
  obtain ⟨front, last, made, endOfInput, error⟩ := run.language_iff
  exact ⟨front, last, by rw [lex_of_run name fits run, made], endOfInput, error⟩

/-- The third of three braces has no place in the block that the first two open. -/
theorem not_template_of_three_braces : ¬ Template ['{', '{', '{', '1', '}', '}'] := by
  have fits : Text.Fits ['{', '{', '{', '1', '}', '}'] := by decide
  obtain ⟨front, last, lexed, _, error⟩ := lex_accepts_iff [] fits
  have tokens : lex [] ['{', '{', '{', '1', '}', '}'] =
      .ok ([⟨.leftDelimiter, ⟨0, 2⟩, leftDelimiter, none⟩] ++
        [.ofError ⟨.unexpectedCharacter '{', ⟨2, 3⟩⟩]) := by decide +kernel
  rw [tokens, Except.ok.injEq] at lexed
  obtain ⟨_, ends⟩ := List.append_inj' lexed rfl
  exact error.mp (by rw [← List.singleton_inj.mp ends]; rfl)

end TemplateLexer
