import TemplateLexer.Proofs.Template
import TemplateLexer.Proofs.Yield

/-!
# Tokens written down

A *document* is a sequence of tokens together with the blanks that separate them.  It is
written down by putting the values and the blanks in a row.  Blanks stand in blocks only.
There they may be left out, with one proviso.  A number that starts with a digit would be
read as the end of a number directly before it.

The lexer undoes this (`lex_render`).  What it gives back does not depend on the blanks.

`Reads` says what a mode makes of a rest of the text, wherever this rest stands.  Each part
of a document has a law that puts its tokens in front of those that are read behind it, and
the law of a document follows by induction on its blocks and their numbers.

The documents are all there is to read.  Every template is a document written down
(`template_iff_exists_render`).
-/

namespace TemplateLexer

open Text

/-! ## Documents -/

/-- A number of a block, with the blanks in front of it. -/
structure Entry where
  gap : Text
  number : Text
  blank : IsGap gap
  numeral : IsNumeral number

/-- A number may follow another one if it starts with a sign or blanks stand between them. -/
def Entry.IsApart (e : Entry) : Prop := e.number.head?.any Char.isDigit = true → e.gap ≠ []

instance (e : Entry) : Decidable e.IsApart := inferInstanceAs (Decidable (_ → _))

/-- A block with the text in front of it, which is empty if there is none. -/
structure Block where
  lead : Text
  entries : List Entry
  /-- The blanks in front of the right delimiter. -/
  gap : Text
  isLead : IsLead lead
  apart : ∀ e ∈ entries.tail, e.IsApart
  blank : IsGap gap

/-- Blocks, and the text after the last of them, which is empty if there is none. -/
structure Document where
  blocks : List Block
  last : Text
  plain : IsPlain last

/-- The kind and the value of a token. -/
def Token.lexeme (t : Token) : TokenKind × Text := (t.kind, t.text)

def textLexemes (t : Text) : List (TokenKind × Text) := if t = [] then [] else [(.text, t)]

def Entry.render (e : Entry) : Text := e.gap ++ e.number

def Entry.lexeme (e : Entry) : TokenKind × Text := (.number, e.number)

def Block.render (b : Block) : Text :=
  b.lead ++ leftDelimiter ++ b.entries.flatMap Entry.render ++ b.gap ++ rightDelimiter

def Block.lexemes (b : Block) : List (TokenKind × Text) :=
  textLexemes b.lead ++ [(.leftDelimiter, leftDelimiter)] ++ b.entries.map Entry.lexeme ++
    [(.rightDelimiter, rightDelimiter)]

def Document.render (d : Document) : Text := d.blocks.flatMap Block.render ++ d.last

def Document.lexemes (d : Document) : List (TokenKind × Text) :=
  d.blocks.flatMap Block.lexemes ++ textLexemes d.last

/-! ## Reading a part of a document -/

/-- The kinds and values that are made of a rest of the text from a mode on. -/
def Reads (mode : Mode) (rest : Text) (lexemes : List (TokenKind × Text)) : Prop :=
  ∀ taken, ∃ tokens, Yields mode taken rest tokens ∧ tokens.map Token.lexeme = lexemes

variable {t u gap : Text} {lexemes : List (TokenKind × Text)}

theorem map_lexeme_textPieces (taken t : Text) :
    (textPieces taken t).map Token.lexeme = textLexemes t := by
  by_cases empty : t = []
  · rw [textPieces, textLexemes, if_pos empty, if_pos empty]
    rfl
  · rw [textPieces, textLexemes, if_neg empty, if_neg empty]
    rfl

theorem reads_last (plain : IsPlain t) :
    Reads .text t (textLexemes t ++ [(.endOfInput, [])]) := by
  intro taken
  refine ⟨_, .halt (.last plain), ?_⟩
  rw [Step.tokens_announced, List.map_append, map_lexeme_textPieces]
  rfl

theorem Reads.lead (lead : IsLead t) (later : Reads .block u lexemes) :
    Reads .text (t ++ (leftDelimiter ++ u))
      (textLexemes t ++ (.leftDelimiter, leftDelimiter) :: lexemes) := by
  intro taken
  obtain ⟨tokens, yields, rfl⟩ := later (taken ++ t ++ leftDelimiter)
  refine ⟨_, .go (.lead lead u) (.go (.opening u) yields), ?_⟩
  rw [List.map_append, map_lexeme_textPieces]
  rfl

theorem Reads.closing (blank : IsGap gap) (later : Reads .text u lexemes) :
    Reads .block (gap ++ (rightDelimiter ++ u))
      ((.rightDelimiter, rightDelimiter) :: lexemes) := by
  intro taken
  obtain ⟨tokens, yields, rfl⟩ := later (taken ++ gap ++ rightDelimiter)
  exact ⟨_, .go (.toClosing blank u) (.go (.closing u) yields), rfl⟩

theorem Reads.number (blank : IsGap gap) (numeral : IsNumeral t)
    (stop : ∀ c ∈ u.head?, c.isDigit = false) (later : Reads .block u lexemes) :
    Reads .block (gap ++ (t ++ u)) ((.number, t) :: lexemes) := by
  intro taken
  obtain ⟨tokens, yields, rfl⟩ := later (taken ++ gap ++ t)
  obtain ⟨c, v, rfl, starts⟩ := numeral.exists_cons
  exact ⟨_, .go (.toNumber blank starts (v ++ u)) (.go (.number numeral stop) yields), rfl⟩

theorem isDigit_eq_false_of_isBlank {c : Char} (blank : isBlank c = true) : c.isDigit = false := by
  by_contra digit
  rw [Bool.not_eq_false] at digit
  have starts : startsNumber c = true := by rw [startsNumber, digit, Bool.or_true]
  rw [Step.isBlank_eq_false_of_startsNumber starts] at blank
  cases blank

/-- No digit follows a number, since the number behind it is apart from it. -/
theorem head_isDigit_eq_false {entries : List Entry} (blank : IsGap gap)
    (apart : ∀ e ∈ entries.head?, e.IsApart) :
    ∀ c ∈ (entries.flatMap Entry.render ++ (gap ++ (rightDelimiter ++ u))).head?,
      c.isDigit = false := by
  intro c first
  cases entries with
  | nil =>
      cases gap with
      | nil =>
          cases first
          rfl
      | cons d gap =>
          cases first
          exact isDigit_eq_false_of_isBlank (blank c (by simp))
  | cons e entries =>
      obtain ⟨space, number, blank', numeral⟩ := e
      cases space with
      | nil =>
          obtain ⟨d, v, rfl, _⟩ := numeral.exists_cons
          cases first
          by_contra digit
          rw [Bool.not_eq_false] at digit
          exact apart _ rfl digit rfl
      | cons d space =>
          cases first
          exact isDigit_eq_false_of_isBlank (blank' c (by simp))

theorem reads_entries {entries : List Entry} (apart : ∀ e ∈ entries.tail, e.IsApart)
    (blank : IsGap gap) (later : Reads .text u lexemes) :
    Reads .block (entries.flatMap Entry.render ++ (gap ++ (rightDelimiter ++ u)))
      (entries.map Entry.lexeme ++ (.rightDelimiter, rightDelimiter) :: lexemes) := by
  induction entries with
  | nil => exact later.closing blank
  | cons e entries ih =>
      have later := ih fun e member => apart e (List.mem_of_mem_tail member)
      have stop := head_isDigit_eq_false (u := u) blank
        fun e first => apart e (List.mem_of_mem_head? first)
      have behind := Reads.number e.blank e.numeral stop later
      simpa [Entry.render, Entry.lexeme] using behind

theorem Block.reads (b : Block) (later : Reads .text u lexemes) :
    Reads .text (b.render ++ u) (b.lexemes ++ lexemes) := by
  have behind := Reads.lead b.isLead (reads_entries b.apart b.blank later)
  simpa [Block.render, Block.lexemes] using behind

theorem Document.reads (d : Document) :
    Reads .text d.render (d.lexemes ++ [(.endOfInput, [])]) := by
  obtain ⟨blocks, last, plain⟩ := d
  rw [Document.render, Document.lexemes]
  induction blocks with
  | nil => exact reads_last plain
  | cons b blocks ih =>
      have behind := b.reads ih
      simpa using behind

/-! ## Templates are documents -/

theorem exists_entries {w : Text} (body : IsBody w) :
    ∃ (entries : List Entry) (gap : Text), w = entries.flatMap Entry.render ++ gap ∧ IsGap gap ∧
      ∀ e ∈ entries.tail, e.IsApart := by
  induction measure : w.length using Nat.strongRecOn generalizing w with
  | ind n ih =>
      obtain ⟨gap, rest, rfl, blank, notBlank⟩ := exists_split_of_valid isBlank w
      cases rest with
      | nil => exact ⟨[], gap, List.append_nil _, blank, List.forall_mem_nil _⟩
      | cons c u =>
          have starts : startsNumber c = true := by
            have filler : isFiller c = true := body c (by simp)
            rwa [isFiller, notBlank c rfl, Bool.false_or] at filler
          obtain ⟨t, v, split, numeral, stop⟩ := exists_numeral starts u
          have shorter : v.length < n := by
            have := List.length_pos_iff.mpr numeral.1
            rw [← measure, split, List.length_append, List.length_append]
            omega
          have later : IsBody v := by
            intro d member
            exact body d (by rw [split]; simp [member])
          obtain ⟨entries, gap', rfl, blank', apart⟩ := ih _ shorter later rfl
          refine ⟨⟨gap, t, blank, numeral⟩ :: entries, gap', ?_, blank', ?_⟩
          · simp [split, Entry.render]
          · intro e member
            cases entries with
            | nil => cases member
            | cons first entries =>
                rcases List.mem_cons.mp member with rfl | member
                -- a digit right behind the number would belong to it
                · intro digit empty
                  obtain ⟨d, number, same, _⟩ := e.numeral.exists_cons
                  have noDigit := stop d (by simp [Entry.render, empty, same])
                  rw [same, List.head?_cons, Option.any_some, noDigit] at digit
                  cases digit
                · exact apart e member

/-- The templates are the documents written down. -/
theorem template_iff_exists_render {t : Text} : Template t ↔ ∃ d : Document, d.render = t := by
  constructor
  · intro template
    induction template with
    | last plain => exact ⟨⟨[], _, plain⟩, rfl⟩
    | @block t w u lead body _ ih =>
        obtain ⟨⟨blocks, last, plain⟩, rfl⟩ := ih
        obtain ⟨entries, gap, rfl, blank, apart⟩ := exists_entries body
        refine ⟨⟨⟨t, entries, gap, lead, apart, blank⟩ :: blocks, last, plain⟩, ?_⟩
        simp [Document.render, Block.render]
  · rintro ⟨⟨blocks, last, plain⟩, rfl⟩
    rw [Document.render]
    induction blocks with
    | nil => exact .last plain
    | cons b blocks ih =>
        have body : IsBody (b.entries.flatMap Entry.render ++ b.gap) := by
          refine List.forall_mem_append.mpr ⟨?_, b.blank.isBody⟩
          intro c member
          obtain ⟨e, _, inside⟩ := List.mem_flatMap.mp member
          exact List.forall_mem_append.mpr ⟨e.blank.isBody, e.numeral.isBody⟩ c inside
        have template := Template.block b.isLead body ih
        simpa [Block.render] using template

/-! ## The lexer undoes the writing -/

/-- The lexer gives back the tokens of a document.  Two documents of the same tokens give the
same, whatever their blanks. -/
theorem lex_render (name : Text) (d : Document) (fits : d.render.Fits) :
    ∃ tokens, lex name d.render = .ok tokens ∧
      tokens.map Token.lexeme = d.lexemes ++ [(.endOfInput, [])] ∧
      ∀ d' : Document, d'.lexemes = d.lexemes → d'.render.Fits →
        ∃ tokens', lex name d'.render = .ok tokens' ∧
          tokens'.map Token.lexeme = tokens.map Token.lexeme := by
  obtain ⟨tokens, yields, made⟩ := d.reads []
  refine ⟨tokens, (lex_eq_ok_iff name fits).mpr yields, made, ?_⟩
  intro d' same fits'
  obtain ⟨tokens', yields', made'⟩ := d'.reads []
  exact ⟨tokens', (lex_eq_ok_iff name fits').mpr yields', by rw [made', made, same]⟩

/-- Two numbers that touch, and one behind a tab. -/
def touchingNumbers : Document where
  blocks := [{
    lead := ['a']
    entries := [
      ⟨[' '], ['1', '2'], by decide, by simp, [], ['1', '2'], rfl, by simp, by simp, by simp⟩,
      ⟨[], ['-', '3'], by decide, by simp, ['-'], ['3'], rfl, by simp, by simp [isSign], by simp⟩,
      ⟨['\t'], ['4'], by decide, by simp, [], ['4'], rfl, by simp, by simp, by simp⟩]
    gap := []
    isLead := by decide
    apart := by decide
    blank := by decide }]
  last := ['{']
  plain := by decide

/-- Digits before a sign, and a number behind a tab, are read as they were written. -/
theorem lex_render_touchingNumbers :
    touchingNumbers.render.Fits ∧
      ∃ tokens, lex [] touchingNumbers.render = .ok tokens ∧
        tokens.map Token.lexeme = touchingNumbers.lexemes ++ [(.endOfInput, [])] ∧
        ∀ d' : Document, d'.lexemes = touchingNumbers.lexemes → d'.render.Fits →
          ∃ tokens', lex [] d'.render = .ok tokens' ∧
            tokens'.map Token.lexeme = tokens.map Token.lexeme :=
  ⟨by decide, lex_render [] touchingNumbers (by decide)⟩

end TemplateLexer
