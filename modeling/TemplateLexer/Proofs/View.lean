import TemplateLexer.Proofs.Schedule

/-!
# What a lexer shows between requests

A lexer is lazy.  Between two requests it is where the last token that it handed out ends, and
what it shows is decided by that token.  It looked at nothing behind the token, but for the end
of input, which is queued together with the last text.

The modes of numbers and of right delimiters do not show.  They are only entered by a step that
makes no token, and then the request goes on.

The argument has two parts.  The first token of a step decides what the lexer shows after it
(`Moves.shows`, `Halts.shows`), and this holds along a run (`Run.shows`).  A request for one
token ends with the first token of a step or with the queued end of input
(`Lexer.Rests.nextToken`), and all requests are made of such requests (`Lexer.Pulls.rests`).
-/

namespace TemplateLexer

open Text

/-! ## Views -/

/-- What a lexer shows. -/
structure View where
  /-- The mode of the next step, or none after the halt. -/
  mode? : Option Mode
  /-- Where the lexeme begins. -/
  mark : Nat
  /-- Where the next character is read. -/
  pos : Nat
  queue : List Token
  finished : Bool

namespace View

/-- The view of a lexer that is about to take a step and has read nothing for it. -/
def ready (mode : Mode) (place : Nat) : View := ⟨some mode, place, place, [], false⟩

/-- The view once the last token of a text of `size` bytes was handed out, or before the
first. -/
def after (size : Nat) : Option Token → View
  | none => ready .text 0
  | some t =>
      match t.kind with
      | .text =>
          if t.span.stop < size then ready .opening t.span.stop
          else ⟨none, size, size, [.ofEnd size], false⟩
      | .leftDelimiter | .number => ready .block t.span.stop
      | .rightDelimiter => ready .text t.span.stop
      | .endOfInput => ⟨none, size, size, [], true⟩
      | .error => ⟨none, t.span.start, t.span.stop, [], true⟩

/-- Nothing is queued, unless it is the end of input behind the last text. -/
theorem after_cases (size : Nat) (last? : Option Token) :
    (after size last?).queue = [] ∨
      after size last? = ⟨none, size, size, [.ofEnd size], false⟩ := by
  cases last? with
  | none => exact Or.inl rfl
  | some t =>
      rw [after]
      split
      · split
        · exact Or.inl rfl
        · exact Or.inr rfl
      all_goals exact Or.inl rfl

theorem mode_after (size : Nat) (last? : Option Token) :
    (after size last?).mode? ≠ some .number ∧ (after size last?).mode? ≠ some .closing := by
  cases last? with
  | none => exact ⟨nofun, nofun⟩
  | some t =>
      rw [after]
      split
      · split
        · exact ⟨nofun, nofun⟩
        · exact ⟨nofun, nofun⟩
      all_goals exact ⟨nofun, nofun⟩

end View

/-! ## The first token of a step -/

/-- A lexer shows this after the first token of a step, with the others still queued. -/
def Step.view (s : Step) (t : Token) (queue : List Token) : View :=
  ⟨s.next?, s.reader.mark, s.reader.pos, queue, t.endsRun⟩

/-- The first token of a step decides what is shown after it. -/
def Step.Shows (size : Nat) (s : Step) : Prop :=
  ∀ t queue, s.tokens = t :: queue → s.view t queue = .after size (some t) ∧
    s.reader.pos = t.span.stop

variable {mode next : Mode} {taken moved rest : Text} {width? : Option Nat} {tokens : List Token}
  {visits : List Visit}

theorem Step.shows_of_eq {size : Nat} {s : Step} {t : Token} {queue : List Token}
    (made : s.tokens = t :: queue) (view : s.view t queue = .after size (some t))
    (pos : s.reader.pos = t.span.stop) : s.Shows size := by
  intro u later first
  rw [made] at first
  cases first
  exact ⟨view, pos⟩

/-- After a token that does not end the run the next mode is ready, where the token ends. -/
theorem Step.view_announced {pos : Nat} {t : Token} (goes : t.endsRun = false) :
    Step.view (.announced mode pos (.holding taken [] rest width?) tokens (some next)) t [] =
      .ready next (size taken) := by
  simp [Step.view, View.ready, Reader.holding, goes]

theorem View.after_lead {t : Text} {n : Nat} (inText : size (taken ++ t) ≤ Span.limit)
    (inFront : size (taken ++ t) < n) :
    View.after n (some (.piece .text taken t)) = .ready .opening (size (taken ++ t)) := by
  simp only [View.after, Token.piece, Span.between_of_le (size_le_append taken t) inText,
    if_pos inFront]

theorem View.after_last {t : Text} (inText : size (taken ++ t) ≤ Span.limit) :
    View.after (size (taken ++ t)) (some (.piece .text taken t)) =
      ⟨none, size (taken ++ t), size (taken ++ t), [.ofEnd (size (taken ++ t))], false⟩ := by
  simp only [View.after, Token.piece, Span.between_of_le (size_le_append taken t) inText,
    Nat.lt_irrefl, if_false]

theorem Moves.shows (moves : Moves taken mode moved rest tokens next)
    (short : size (taken ++ (moved ++ rest)) ≤ Span.limit) :
    Step.Shows (size (taken ++ (moved ++ rest)))
      (.announced mode (size taken) (.holding (taken ++ moved) [] rest width?) tokens
        (some next)) := by
  have inText : size (taken ++ moved) ≤ Span.limit := by
    simp only [size_append] at short ⊢
    omega
  cases moves with
  | lead lead u =>
      have inFront : size (taken ++ moved) < size (taken ++ (moved ++ (leftDelimiter ++ u))) := by
        have width : size leftDelimiter = 2 := by decide
        simp only [size_append]
        omega
      by_cases empty : moved = []
      · intro t queue first
        rw [textPieces, if_pos empty] at first
        cases first
      · refine Step.shows_of_eq (if_neg empty) ?_ ?_
        · rw [View.after_lead inText inFront, Step.view_announced rfl]
        · rw [Step.reader_announced, Reader.pos_holding_nil, Token.span_piece inText]
  | opening | closing | number =>
      refine Step.shows_of_eq rfl ?_ ?_
      · rw [Step.view_announced rfl, View.after, Token.span_piece inText]
        rfl
      · rw [Step.reader_announced, Reader.pos_holding_nil, Token.span_piece inText]
  | toClosing | toNumber =>
      intro t queue first
      cases first

theorem Halts.shows {s : Step} (halts : Halts taken mode rest s)
    (short : size (taken ++ rest) ≤ Span.limit) : s.Shows (size (taken ++ rest)) := by
  cases halts with
  | last =>
      by_cases empty : rest = []
      · subst empty
        refine Step.shows_of_eq rfl ?_ ?_
        · simp [Step.view, View.after, Reader.holding, Token.ofEnd, Token.endsRun,
            TokenKind.endsRun]
        · have whole := Span.between_of_le (Nat.le_refl (size (taken ++ []))) short
          rw [Step.reader_announced, Reader.pos_holding_nil, Token.ofEnd, Span.point, whole]
      · have made : textPieces taken rest ++ [.ofEnd (size (taken ++ rest))] =
            [.piece .text taken rest, .ofEnd (size (taken ++ rest))] := by
          rw [textPieces, if_neg empty, List.singleton_append]
        refine Step.shows_of_eq made ?_ ?_
        · rw [View.after_last short, Step.view, Step.reader_announced, Reader.pos_holding_nil]
          rfl
        · rw [Step.reader_announced, Reader.pos_holding_nil, Token.span_piece short]
  | @offence gap _ _ bad after =>
      have inText : size (taken ++ gap ++ bad) ≤ Span.limit := by
        simp only [size_append] at short ⊢
        omega
      have span := Span.between_of_le (size_le_append (taken ++ gap) bad) inText
      rw [span]
      exact Step.shows_of_eq rfl rfl rfl

/-- Along a run the first token of every step decides. -/
theorem Run.shows (run : Run mode taken rest width? visits)
    (short : size (taken ++ rest) ≤ Span.limit) :
    ∀ v ∈ visits, v.step.Shows (size (taken ++ rest)) := by
  induction run with
  | halt halts =>
      intro v member
      rw [List.mem_singleton.mp member]
      exact halts.shows short
  | go moves _ ih =>
      intro v member
      rcases List.mem_cons.mp member with rfl | later
      · exact moves.shows short
      · rw [List.append_assoc] at ih
        exact ih short v later

/-! ## Lexers between requests -/

namespace Lexer

/-- What the lexer shows. -/
def view (l : Lexer) : View := ⟨l.mode?, l.reader.mark, l.reader.pos, l.queue, l.finished⟩

/-- What the lexer shows is decided by the last token that it handed out, and it read nothing
behind this token. -/
structure Rests (l : Lexer) (last? : Option Token) : Prop where
  view : l.view = .after l.text.size last?
  pos : ∀ t ∈ last?, l.reader.pos = t.span.stop

variable {l l' : Lexer} {last? : Option Token}

/-- Only the end of input is handed out of a queue.  The lexer halted at the last text. -/
theorem Rests.handOut {t : Token} {queue : List Token} (rests : l.Rests last?)
    (front : l.queue = t :: queue) (short : l.text.size ≤ Span.limit)
    (unfinished : l.finished = false) : (l.handOut t queue).Rests (some t) := by
  have view := rests.view
  have queued : (View.after l.text.size last?).queue = t :: queue := by
    rw [← view]
    exact front
  rcases View.after_cases l.text.size last? with nothing | ending
  · rw [nothing] at queued
    cases queued
  · rw [ending] at queued view
    cases queued
    obtain ⟨halted, mark, pos, _, _⟩ := View.mk.inj view
    have whole := Span.between_of_le (Nat.le_refl l.text.size) short
    constructor
    · simp only [Lexer.view, Lexer.handOut, halted, mark, pos, unfinished]
      rfl
    · intro last same
      cases same
      simp only [Lexer.handOut, pos, Token.ofEnd, Span.point, whole]

/-- With an empty queue a request ends with the first token of a step. -/
theorem Ahead.rests_of_visits {v : Visit} {later : List Visit} (ahead : l.Ahead (v :: later))
    (empty : l.queue = []) (short : l.text.size ≤ Span.limit) :
    ∃ t l' after, l.nextToken = .ok (t, l') ∧ l.Serves (v :: later) [t] l' after ∧
      l'.Rests (some t) := by
  obtain ⟨before, spoken, after, t, queue, member, made, _, fresh, taken, serves⟩ :=
    ahead.nextToken_of_visits empty
  obtain ⟨mode, goes, _⟩ := ahead.exists_mode
  obtain ⟨behind, rest, width?, place, _, run⟩ := ahead.exists_run goes
  have text : l.text = behind ++ rest := by simp [Lexer.text, place, Reader.holding]
  have shows := run.shows (text ▸ short) spoken member _ _ made
  rw [← text] at shows
  refine ⟨t, _, after, taken, serves, ?_, ?_⟩
  · rw [serves.text, ← shows.1]
    simp only [Lexer.view, Lexer.handOut, visit, fresh, Bool.false_or]
    rfl
  · intro last same
    cases same
    exact shows.2

/-- A request for a token leaves the lexer where that token decides. -/
theorem Rests.nextToken {t : Token} (rests : l.Rests last?) (ahead : l.Ahead visits)
    (short : l.text.size ≤ Span.limit) (unfinished : l.finished = false)
    (pull : l.nextToken = .ok (t, l')) :
    l'.Rests (some t) ∧ l'.text = l.text ∧ ∃ later, l'.Ahead later := by
  cases front : l.queue with
  | cons u queue =>
      have taken := nextTokenWithin_of_queue stepBound front
      rw [← Lexer.nextToken, pull] at taken
      obtain ⟨rfl, rfl⟩ := Prod.mk.inj (Except.ok.inj taken)
      exact ⟨rests.handOut front short unfinished, rfl, visits, ahead.handOut front⟩
  | nil =>
      cases visits with
      | nil => exact absurd (by simp [owed, front]) (ahead.unfinished_iff.mp unfinished)
      | cons v later =>
          obtain ⟨u, l₁, after, taken, serves, rests'⟩ := ahead.rests_of_visits front short
          rw [pull] at taken
          obtain ⟨rfl, rfl⟩ := Prod.mk.inj (Except.ok.inj taken)
          exact ⟨rests', serves.text, after, serves.ahead⟩

/-- So do any number of requests for a token each. -/
theorem Pulls.rests (pulls : l.Pulls tokens l') (ahead : l.Ahead visits)
    (short : l.text.size ≤ Span.limit) (rests : l.Rests last?) :
    l'.Rests (tokens.getLast?.or last?) := by
  induction pulls generalizing visits last? with
  | nil => exact rests
  | @cons _ _ _ t tokens unfinished pull _ ih =>
      obtain ⟨rests', text, later, ahead'⟩ := rests.nextToken ahead short unfinished pull
      have last : (t :: tokens).getLast?.or last? = tokens.getLast?.or (some t) := by
        cases tokens with
        | nil => rfl
        | cons u tokens => simp [List.getLast?_cons]
      rw [last]
      exact ih ahead' (text ▸ short) rests'

theorem rests_ofText (name text : Text) : (ofText name text).Rests none where
  view := rfl
  pos := nofun

end Lexer

/-- Between requests the lexer shows what the last token handed out decides.  It read nothing
behind that token, and is never about to read a number or a right delimiter. -/
theorem answerAll_view (name : Text) {text : Text} (short : text.size ≤ Span.limit)
    (requests : List Request) :
    ∃ tokens l, lex name text = .ok tokens ∧
      (Lexer.ofText name text).answerAll requests =
        .ok (answersFrom text.size requests tokens, l) ∧
      l.view = .after text.size (takeAll requests tokens).getLast? ∧
      (∀ t ∈ (takeAll requests tokens).getLast?, l.reader.pos = t.span.stop) ∧
      l.mode? ≠ some .number ∧ l.mode? ≠ some .closing := by
  have fits : text.Fits := fits_of_size_le short
  obtain ⟨visits, run⟩ := exists_run_of_text text
  have ahead := Lexer.ahead_ofText name fits run
  obtain ⟨l, later, answered, serves, pulls⟩ := ahead.answerAll_eq requests
  have owed : (Lexer.ofText name text).owed visits = tokensOfVisits visits := rfl
  rw [owed] at answered serves pulls
  have rests := pulls.rests ahead short (Lexer.rests_ofText name text)
  rw [Option.or_none] at rests
  have same : l.text = text := serves.text
  have view := rests.view
  rw [same] at view
  have hidden := View.mode_after text.size (takeAll requests (tokensOfVisits visits)).getLast?
  rw [← view] at hidden
  exact ⟨_, l, lex_of_run name fits run, answered, view, rests.pos, hidden⟩

/-- After a number the lexer is behind its digits, and the blank that follows is not read. -/
theorem answerAll_view_of_number :
    ∃ answers l, (Lexer.ofText [] ['a', '{', '{', ' ', '7', ' ', 'é']).answerAll
        [.nextToken, .next, .nextToken] = .ok (answers, l) ∧
      l.view = .ready .block 5 := by
  have short : Text.size ['a', '{', '{', ' ', '7', ' ', 'é'] ≤ Span.limit := by decide
  obtain ⟨tokens, l, lexed, answered, view, _⟩ :=
    answerAll_view [] short [.nextToken, .next, .nextToken]
  have made : lex [] ['a', '{', '{', ' ', '7', ' ', 'é'] =
      .ok (tokensOf ['a', '{', '{', ' ', '7', ' ', 'é']) := by decide +kernel
  obtain rfl := Except.ok.inj (made.symm.trans lexed)
  have last : (takeAll [.nextToken, .next, .nextToken]
      (tokensOf ['a', '{', '{', ' ', '7', ' ', 'é'])).getLast? =
        some (.piece .number ['a', '{', '{', ' '] ['7']) := by decide +kernel
  rw [last] at view
  exact ⟨_, l, answered, view⟩

end TemplateLexer
