import TemplateLexer.Proofs.Run

/-!
# No request faults

A lexer is used by requests, in any order and number.  A request asks for the next token,
for the next element of the sequence, or for all elements that are left.

The invariant is `Lexer.Ahead`, which says that the rest of a run is ahead of the lexer.
It holds at the start of a text, transitions preserve it (`Lexer.Transition.ahead`), and
every request consists of transitions.  A lexer for which it holds answers all requests.
When it is about to take a step its lexeme is empty and its mode is ready.
-/

namespace TemplateLexer

open Text

/-! ## Requests -/

/-- What a lexer can be asked for. -/
inductive Request where
  | nextToken
  | next
  | drain
deriving DecidableEq, Repr

namespace Lexer

/-- The tokens that answer a request. -/
def answer (l : Lexer) : Request → Except Fault (List Token × Lexer)
  | .nextToken => do
      let (token, l) ← l.nextToken
      return ([token], l)
  | .next => do
      let (token?, l) ← l.next?
      return (token?.toList, l)
  | .drain => l.drain

/-- The answers to some requests in order. -/
def answerAll (l : Lexer) : List Request → Except Fault (List (List Token) × Lexer)
  | [] => .ok ([], l)
  | request :: requests => do
      let (tokens, l) ← l.answer request
      let (answers, l) ← answerAll l requests
      return (tokens :: answers, l)

variable {l l' : Lexer} {visits : List Visit}

/-- A request takes tokens that are owed.  A finished lexer gives the end of input, and
stays as it is. -/
theorem Ahead.answer (ahead : l.Ahead visits) (request : Request) :
    ∃ tokens l' later, l.answer request = .ok (tokens, l') ∧
      (l.Serves visits tokens l' later ∨
        l' = l ∧ later = visits ∧ tokens = [.ofEnd l.text.size]) := by
  cases request with
  | nextToken =>
      by_cases nothing : l.owed visits = []
      · refine ⟨[.ofEnd l.text.size], l, visits, ?_, Or.inr ⟨rfl, rfl, rfl⟩⟩
        simp [Lexer.answer, ahead.nextToken_of_nil nothing, bind, Except.bind, pure, Except.pure]
      · obtain ⟨t, l', later, taken, serves⟩ := ahead.nextToken nothing
        refine ⟨[t], l', later, ?_, Or.inl serves⟩
        simp [Lexer.answer, taken, bind, Except.bind, pure, Except.pure]
  | next =>
      obtain ⟨t?, l', later, taken, serves, _⟩ := ahead.next?
      refine ⟨t?.toList, l', later, ?_, Or.inl serves⟩
      simp [Lexer.answer, taken, bind, Except.bind, pure, Except.pure]
  | drain =>
      obtain ⟨l', taken, serves⟩ := ahead.drain
      exact ⟨_, l', [], taken, Or.inl serves⟩

/-- Requests are answered by transitions, with tokens that are owed or the end of input. -/
theorem Ahead.answerAll (ahead : l.Ahead visits) (requests : List Request) :
    ∃ answers l', l.answerAll requests = .ok (answers, l') ∧ l.Reaches l' ∧
      ∀ tokens ∈ answers, ∀ t ∈ tokens, t ∈ l.owed visits ∨ t = .ofEnd l.text.size := by
  induction requests generalizing l visits with
  | nil => exact ⟨[], l, rfl, .refl, List.forall_mem_nil _⟩
  | cons request requests ih =>
      obtain ⟨tokens, l', later, first, serves | ⟨rfl, rfl, rfl⟩⟩ := ahead.answer request
      · obtain ⟨answers, l'', rest, reaches, members⟩ := ih serves.ahead
        refine ⟨tokens :: answers, l'', ?_, serves.reaches.trans reaches,
          List.forall_mem_cons.mpr ⟨?_, ?_⟩⟩
        · simp [Lexer.answerAll, first, rest, bind, Except.bind, pure, Except.pure]
        · intro t member
          rw [serves.owed]
          exact Or.inl (List.mem_append_left _ member)
        · intro tokens' member t member'
          rw [serves.owed, ← serves.text]
          exact (members tokens' member t member').imp_left (List.mem_append_right _)
      · obtain ⟨answers, l'', rest, reaches, members⟩ := ih ahead
        refine ⟨[.ofEnd l'.text.size] :: answers, l'', ?_, reaches,
          List.forall_mem_cons.mpr ⟨?_, members⟩⟩
        · simp [Lexer.answerAll, first, rest, bind, Except.bind, pure, Except.pure]
        · intro t member
          exact Or.inr (List.mem_singleton.mp member)

/-! ## Transitions -/

/-- A transition leaves a run ahead. -/
theorem Transition.ahead (transition : Transition l l') (ahead : l.Ahead visits) :
    ∃ later, l'.Ahead later := by
  cases transition with
  | handOut front => exact ⟨visits, ahead.handOut front⟩
  | run empty unfinished goes ran =>
      cases visits with
      | nil =>
          obtain ⟨_, _, _, _, _, run⟩ := ahead.exists_run goes
          cases run
      | cons v later =>
          obtain ⟨visited, _, after⟩ := ahead.run_eq goes
          rw [visited, Except.ok.injEq] at ran
          subst ran
          exact ⟨later, after⟩

theorem Reaches.ahead (reaches : l.Reaches l') (ahead : l.Ahead visits) :
    ∃ later, l'.Ahead later := by
  induction reaches with
  | refl => exact ⟨visits, ahead⟩
  | tail _ transition ih =>
      obtain ⟨later, ahead'⟩ := ih
      exact transition.ahead ahead'

/-- A lexer that has to take a step can.  Its mode is ready and its lexeme is empty. -/
theorem Ahead.exists_step (ahead : l.Ahead visits) (empty : l.queue = [])
    (unfinished : l.finished = false) :
    ∃ mode rest l', l.mode? = some mode ∧ l.reader.mark = l.reader.pos ∧
      l.reader.rest = .ok rest ∧ mode.Ready rest ∧ l.run mode = .ok l' := by
  cases visits with
  | nil =>
      rcases ahead.ends with ⟨finished, _⟩ | ⟨_, ends⟩
      · rw [unfinished] at finished
        cases finished
      · exact absurd (by simp [owed, empty]) ends.ne_nil
  | cons v later =>
      obtain ⟨mode, goes, _⟩ := ahead.exists_mode
      obtain ⟨taken, rest, width?, place, ready, _⟩ := ahead.exists_run goes
      refine ⟨mode, rest, l.visit v, goes, ?_, ?_, ready, (ahead.run_eq goes).1⟩
      · simp [place, Reader.holding]
      · rw [place, Reader.rest_holding]

end Lexer

/-! ## Spans -/

theorem Token.piece_ordered (kind : TokenKind) (taken t : Text) :
    (piece kind taken t).span.start ≤ (piece kind taken t).span.stop := by
  exact Span.between_ordered (size_le_append taken t)

variable {mode next : Mode} {taken rest moved : Text} {width? : Option Nat} {tokens : List Token}
  {visits : List Visit}

theorem textPieces_ordered (taken t : Text) :
    ∀ u ∈ textPieces taken t, u.span.start ≤ u.span.stop := by
  intro u member
  obtain ⟨_, rfl⟩ := mem_textPieces.mp member
  exact Token.piece_ordered _ _ _

theorem Moves.ordered (moves : Moves taken mode moved rest tokens next) :
    ∀ t ∈ tokens, t.span.start ≤ t.span.stop := by
  intro t member
  cases moves with
  | lead => exact textPieces_ordered _ _ t member
  | opening | closing | number =>
      rw [List.mem_singleton.mp member]
      exact Token.piece_ordered _ _ _
  | toClosing | toNumber => cases member

theorem Halts.ordered {s : Step} (halts : Halts taken mode rest s) :
    ∀ t ∈ s.tokens, t.span.start ≤ t.span.stop := by
  intro t member
  cases halts with
  | last =>
      rcases List.mem_append.mp member with piece | ending
      · exact textPieces_ordered _ _ t piece
      · rw [List.mem_singleton.mp ending]
        exact Nat.le_refl _
  | offence =>
      rw [List.mem_singleton.mp member]
      exact Span.between_ordered (size_le_append _ _)

/-- The ends of every span of a run are in order. -/
theorem Run.ordered (run : Run mode taken rest width? visits) :
    ∀ t ∈ tokensOfVisits visits, t.span.start ≤ t.span.stop := by
  induction run with
  | halt halts =>
      rw [tokensOfVisits_cons, tokensOfVisits_nil, List.append_nil]
      exact halts.ordered
  | go moves run ih =>
      rw [tokensOfVisits_cons]
      exact List.forall_mem_append.mpr ⟨moves.ordered, ih⟩

/-! ## Safety -/

/-- No request faults, and every token has a span with a length.  Every step on the way is
taken with an empty lexeme, in a mode that is ready, and does not fault. -/
theorem answerAll_isSafe (name : Text) {text : Text} (fits : text.Fits)
    (requests : List Request) :
    (∃ answers l, (Lexer.ofText name text).answerAll requests = .ok (answers, l) ∧
      (Lexer.ofText name text).Reaches l ∧
      ∀ tokens ∈ answers, ∀ t ∈ tokens, ∃ length, t.span.length = .ok length) ∧
    ∀ l, (Lexer.ofText name text).Reaches l → l.queue = [] → l.finished = false →
      ∃ mode rest l', l.mode? = some mode ∧ l.reader.mark = l.reader.pos ∧
        l.reader.rest = .ok rest ∧ mode.Ready rest ∧ l.run mode = .ok l' := by
  obtain ⟨visits, run⟩ := exists_run_of_text text
  have ahead := Lexer.ahead_ofText name fits run
  constructor
  · obtain ⟨answers, l, answered, reaches, members⟩ := ahead.answerAll requests
    refine ⟨answers, l, answered, reaches, ?_⟩
    intro tokens member t member'
    have ordered : t.span.start ≤ t.span.stop := by
      rcases members tokens member t member' with owes | rfl
      · exact run.ordered t owes
      · exact Nat.le_refl _
    exact ⟨t.span.stop - t.span.start, if_pos ordered⟩
  · intro l reaches empty unfinished
    obtain ⟨later, ahead'⟩ := reaches.ahead ahead
    exact ahead'.exists_step empty unfinished

/-- Requests go on after the last token. -/
theorem answerAll_isSafe_of_error :
    (∃ answers l, (Lexer.ofText [] ['{', '{', '1', '\n']).answerAll [.nextToken, .drain, .next] =
        .ok (answers, l) ∧
      (Lexer.ofText [] ['{', '{', '1', '\n']).Reaches l ∧
      ∀ tokens ∈ answers, ∀ t ∈ tokens, ∃ length, t.span.length = .ok length) ∧
    ∀ l, (Lexer.ofText [] ['{', '{', '1', '\n']).Reaches l → l.queue = [] → l.finished = false →
      ∃ mode rest l', l.mode? = some mode ∧ l.reader.mark = l.reader.pos ∧
        l.reader.rest = .ok rest ∧ mode.Ready rest ∧ l.run mode = .ok l' :=
  answerAll_isSafe [] (by decide) [.nextToken, .drain, .next]

end TemplateLexer
