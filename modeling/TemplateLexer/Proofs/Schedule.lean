import TemplateLexer.Proofs.Safety

/-!
# Requests in any order

A lexer answers requests as the list of its tokens would.  A request for one token takes the
first of the tokens that are left, and a drain takes all of them.  So requests of all kinds
together hand out each token once and in order, whatever their schedule.

Once nothing is left a list has nothing to give, and neither has a lexer.  It is *finished*
then.  It stays as it is and answers a request for a token with the end of input.

* `takeAll`, `leaveAll`: what requests in turn take from a list, and what they leave of it.
* `Lexer.Ahead.answer_eq`: the answer to a request is that of the tokens that are owed.
* `Lexer.Pulls`: the requests for one token each that a request amounts to.  What one such
  request does to a lexer is all that a schedule can do to it.
-/

namespace TemplateLexer

open Text

/-! ## Requests to a list of tokens -/

namespace Request

/-- What a request takes from the tokens that are left. -/
def take : Request → List Token → List Token
  | nextToken, tokens | next, tokens => tokens.take 1
  | drain, tokens => tokens

/-- What a request leaves of the tokens. -/
def leave : Request → List Token → List Token
  | nextToken, tokens | next, tokens => tokens.drop 1
  | drain, _ => []

/-- The answer when nothing is left of the tokens of a text of `size` bytes. -/
def atEnd (size : Nat) : Request → List Token
  | nextToken => [.ofEnd size]
  | next | drain => []

def answerFrom (size : Nat) (tokens : List Token) (request : Request) : List Token :=
  if tokens = [] then request.atEnd size else request.take tokens

theorem take_append_leave (request : Request) (tokens : List Token) :
    request.take tokens ++ request.leave tokens = tokens := by
  cases request with
  | nextToken | next => exact List.take_append_drop 1 tokens
  | drain => exact List.append_nil tokens

theorem leave_nil (request : Request) : request.leave [] = [] := by
  cases request with
  | nextToken | next | drain => rfl

theorem take_nil (request : Request) : request.take [] = [] := by
  cases request with
  | nextToken | next | drain => rfl

theorem atEnd_eq_replicate (size : Nat) (request : Request) :
    ∃ n, request.atEnd size = List.replicate n (.ofEnd size) := by
  cases request with
  | nextToken => exact ⟨1, rfl⟩
  | next | drain => exact ⟨0, rfl⟩

end Request

/-- The tokens that requests take one after the other. -/
def takeAll : List Request → List Token → List Token
  | [], _ => []
  | request :: requests, tokens => request.take tokens ++ takeAll requests (request.leave tokens)

/-- The tokens that requests leave. -/
def leaveAll : List Request → List Token → List Token
  | [], tokens => tokens
  | request :: requests, tokens => leaveAll requests (request.leave tokens)

/-- The answers to requests from a list of tokens. -/
def answersFrom (size : Nat) : List Request → List Token → List (List Token)
  | [], _ => []
  | request :: requests, tokens =>
      request.answerFrom size tokens :: answersFrom size requests (request.leave tokens)

variable {requests : List Request} {tokens : List Token}

/-- No token is lost, and none is taken twice or out of order. -/
theorem takeAll_append_leaveAll (requests : List Request) (tokens : List Token) :
    takeAll requests tokens ++ leaveAll requests tokens = tokens := by
  induction requests generalizing tokens with
  | nil => rfl
  | cons request requests ih =>
      rw [takeAll, leaveAll, List.append_assoc, ih, Request.take_append_leave]

theorem takeAll_nil (requests : List Request) : takeAll requests [] = [] := by
  have parts := takeAll_append_leaveAll requests []
  exact (List.append_eq_nil_iff.mp parts).1

/-- The answers are the tokens that are taken, and then the end of input if nothing is left. -/
theorem exists_flatten_answersFrom (size : Nat) (requests : List Request) (tokens : List Token) :
    ∃ n, (answersFrom size requests tokens).flatten =
        takeAll requests tokens ++ List.replicate n (.ofEnd size) ∧
      (leaveAll requests tokens ≠ [] → n = 0) := by
  induction requests generalizing tokens with
  | nil => exact ⟨0, rfl, fun _ => rfl⟩
  | cons request requests ih =>
      obtain ⟨n, flat, idle⟩ := ih (request.leave tokens)
      rw [answersFrom, List.flatten_cons, flat, takeAll, leaveAll, Request.answerFrom]
      by_cases nothing : tokens = []
      · subst nothing
        obtain ⟨m, ends⟩ := request.atEnd_eq_replicate size
        have left : leaveAll requests (request.leave []) = [] := by
          have parts := takeAll_append_leaveAll requests []
          rw [Request.leave_nil]
          exact (List.append_eq_nil_iff.mp parts).2
        refine ⟨m + n, ?_, fun some => absurd left some⟩
        rw [if_pos rfl, ends, Request.leave_nil, takeAll_nil, Request.take_nil, List.nil_append,
          List.nil_append, List.replicate_append_replicate]
        rfl
      · refine ⟨n, ?_, idle⟩
        rw [if_neg nothing, List.append_assoc]

/-! ## Requests to a lexer -/

namespace Lexer

/-- An unfinished lexer is asked for some tokens, one at a time. -/
inductive Pulls : Lexer → List Token → Lexer → Prop where
  | nil (l : Lexer) : Pulls l [] l
  | cons {l l' l'' : Lexer} {t : Token} {tokens : List Token} (unfinished : l.finished = false)
      (pull : l.nextToken = .ok (t, l')) (later : Pulls l' tokens l'') : Pulls l (t :: tokens) l''

variable {l l' l'' : Lexer} {visits : List Visit} {later : List Token}

theorem Pulls.append (first : l.Pulls tokens l') (second : l'.Pulls later l'') :
    l.Pulls (tokens ++ later) l'' := by
  induction first with
  | nil => exact second
  | cons unfinished pull _ ih => exact .cons unfinished pull (ih second)

/-- An element of the sequence is a token asked for. -/
theorem Pulls.of_next? {t? : Option Token} (taken : l.next? = .ok (t?, l')) :
    l.Pulls t?.toList l' := by
  cases finished : l.finished with
  | true =>
      simp only [next?, finished, if_true, Except.ok.injEq, Prod.mk.injEq] at taken
      obtain ⟨rfl, rfl⟩ := taken
      exact .nil l
  | false =>
      simp only [next?, finished, Bool.false_eq_true, if_false] at taken
      cases pull : l.nextToken with
      | error fault =>
          rw [pull] at taken
          cases taken
      | ok answer =>
          rw [pull] at taken
          cases taken
          exact .cons finished pull (.nil _)

/-- So is every token that a drain gives. -/
theorem Pulls.of_drainWithin {bound : Nat} (drained : l.drainWithin bound = .ok (tokens, l')) :
    l.Pulls tokens l' := by
  induction bound generalizing l tokens with
  | zero => cases drained
  | succ bound ih =>
      rw [drainWithin] at drained
      cases taken : l.next? with
      | error fault =>
          rw [taken] at drained
          cases drained
      | ok answer =>
          obtain ⟨t?, l₁⟩ := answer
          rw [taken] at drained
          have first : l.Pulls t?.toList l₁ := .of_next? taken
          cases t? with
          | none =>
              cases drained
              exact first
          | some t =>
              cases rest : l₁.drainWithin bound with
              | error fault =>
                  simp only [rest, bind, Except.bind] at drained
                  cases drained
              | ok answers =>
                  simp only [rest, bind, Except.bind, pure, Except.pure, Except.ok.injEq,
                    Prod.mk.injEq] at drained
                  obtain ⟨rfl, rfl⟩ := drained
                  exact first.append (ih rest)

theorem Serves.owed_of_append {front back : List Token} {last : List Visit}
    (serves : l.Serves visits front l' last) (split : front ++ back = l.owed visits) :
    l'.owed last = back :=
  (List.append_cancel_left (split.trans serves.owed)).symm

/-- With nothing owed a request changes nothing. -/
theorem Ahead.answer_of_nil (ahead : l.Ahead visits) (nothing : l.owed visits = [])
    (request : Request) : l.answer request = .ok (request.atEnd l.text.size, l) := by
  have finished := ahead.finished_iff.mpr nothing
  cases request with
  | nextToken =>
      simp only [Lexer.answer, ahead.nextToken_of_nil nothing, bind, Except.bind, pure, Except.pure,
        Request.atEnd]
  | next =>
      simp only [Lexer.answer, Lexer.next?, finished, if_true, bind, Except.bind, pure, Except.pure]
      rfl
  | drain =>
      simp only [Lexer.answer, Lexer.drain, Lexer.drainWithin, Lexer.next?, finished, if_true, bind,
        Except.bind, pure, Except.pure]
      rfl

theorem Ahead.answerAll_of_nil (ahead : l.Ahead visits) (nothing : l.owed visits = [])
    (requests : List Request) :
    l.answerAll requests = .ok (requests.map (Request.atEnd l.text.size), l) := by
  induction requests with
  | nil => rfl
  | cons request requests ih =>
      simp only [Lexer.answerAll, ahead.answer_of_nil nothing, ih, bind, Except.bind, pure, Except.pure,
        List.map_cons]

/-- The answer to a request is that of the tokens that are owed. -/
theorem Ahead.answer_eq (ahead : l.Ahead visits) (request : Request) :
    ∃ l' later, l.answer request = .ok (request.answerFrom l.text.size (l.owed visits), l') ∧
      l.Serves visits (request.take (l.owed visits)) l' later ∧
      l.Pulls (request.take (l.owed visits)) l' := by
  by_cases nothing : l.owed visits = []
  · refine ⟨l, visits, ?_, ?_, ?_⟩
    · rw [Request.answerFrom, if_pos nothing, ahead.answer_of_nil nothing]
    · rw [nothing, Request.take_nil]
      exact .refl ahead
    · rw [nothing, Request.take_nil]
      exact .nil l
  have unfinished := ahead.unfinished_iff.mpr nothing
  rw [Request.answerFrom, if_neg nothing]
  cases request with
  | nextToken =>
      obtain ⟨t, l', later, taken, serves⟩ := ahead.nextToken nothing
      have first : Request.nextToken.take (l.owed visits) = [t] := by rw [serves.owed]; rfl
      rw [first]
      refine ⟨l', later, ?_, serves, .cons unfinished taken (.nil l')⟩
      simp only [Lexer.answer, taken, bind, Except.bind, pure, Except.pure]
  | next =>
      obtain ⟨t?, l', later, taken, serves, none_iff⟩ := ahead.next?
      cases t? with
      | none => exact absurd (none_iff.mp rfl) nothing
      | some t =>
          have first : Request.next.take (l.owed visits) = [t] := by rw [serves.owed]; rfl
          rw [first]
          refine ⟨l', later, ?_, serves, .of_next? taken⟩
          simp only [Lexer.answer, taken, bind, Except.bind, pure, Except.pure, Option.toList_some]
  | drain =>
      obtain ⟨l', taken, serves⟩ := ahead.drain
      exact ⟨l', [], taken, serves, .of_drainWithin taken⟩

/-- The answers to requests are those of the tokens that are owed. -/
theorem Ahead.answerAll_eq (ahead : l.Ahead visits) (requests : List Request) :
    ∃ l' later,
      l.answerAll requests = .ok (answersFrom l.text.size requests (l.owed visits), l') ∧
      l.Serves visits (takeAll requests (l.owed visits)) l' later ∧
      l.Pulls (takeAll requests (l.owed visits)) l' := by
  induction requests generalizing l visits with
  | nil => exact ⟨l, visits, rfl, .refl ahead, .nil l⟩
  | cons request requests ih =>
      obtain ⟨l₁, later, first, serves, pulls⟩ := ahead.answer_eq request
      obtain ⟨l', last, rest, serves', pulls'⟩ := ih serves.ahead
      have left : l₁.owed later = request.leave (l.owed visits) :=
        serves.owed_of_append (request.take_append_leave _)
      rw [left] at rest serves' pulls'
      refine ⟨l', last, ?_, serves.trans serves', pulls.append pulls'⟩
      simp only [Lexer.answerAll, first, rest, serves.text, bind, Except.bind, pure, Except.pure,
        answersFrom]

end Lexer

/-! ## The last token -/

/-- The token that ends a run was handed out once no token is left. -/
theorem EndsOnce.exists_mem_iff {front back : List Token} (ends : EndsOnce (front ++ back)) :
    (∃ t ∈ front, t.endsRun = true) ↔ back = [] := by
  induction front with
  | nil =>
      constructor
      · rintro ⟨t, member, _⟩
        cases member
      · intro nothing
        exact absurd nothing ends.ne_nil
  | cons t front ih =>
      rw [List.cons_append] at ends
      generalize split : front ++ back = tokens at ends
      cases ends with
      | last last =>
          obtain ⟨rfl, rfl⟩ := List.append_eq_nil_iff.mp split
          simp [last]
      | cons goes later =>
          rw [← split] at later
          simp [goes, ih later]

variable {mode : Mode} {taken rest : Text} {width? : Option Nat} {visits : List Visit}

/-- The end of input is the same token, whether a step makes it or a finished lexer. -/
theorem Halts.eq_ofEnd {s : Step} (halts : Halts taken mode rest s) :
    ∀ t ∈ s.tokens, t.kind = .endOfInput → t = .ofEnd (size (taken ++ rest)) := by
  intro t member kind
  cases halts with
  | last =>
      rcases List.mem_append.mp member with piece | ending
      · obtain ⟨_, rfl⟩ := mem_textPieces.mp piece
        cases kind
      · exact List.mem_singleton.mp ending
  | offence =>
      rw [List.mem_singleton.mp member] at kind
      cases kind

theorem Run.eq_ofEnd (run : Run mode taken rest width? visits) :
    ∀ t ∈ tokensOfVisits visits, t.kind = .endOfInput → t = .ofEnd (size (taken ++ rest)) := by
  induction run with
  | halt halts =>
      rw [tokensOfVisits_cons, tokensOfVisits_nil, List.append_nil]
      exact halts.eq_ofEnd
  | go moves _ ih =>
      intro t member kind
      rw [tokensOfVisits_cons] at member
      rcases List.mem_append.mp member with made | later
      · have goes := moves.goes t made
        rw [Token.endsRun, kind] at goes
        cases goes
      · have same := ih t later kind
        rwa [List.append_assoc] at same

/-! ## The schedule does not matter -/

/-- In any schedule the tokens of a text are handed out in order and each once.  The lexer is
finished when the last of them is, and then no request changes it. -/
theorem answerAll_eq_answersFrom (name : Text) {text : Text} (fits : text.Fits)
    (requests : List Request) :
    ∃ tokens l, lex name text = .ok tokens ∧
      (Lexer.ofText name text).answerAll requests =
        .ok (answersFrom text.size requests tokens, l) ∧
      takeAll requests tokens <+: tokens ∧
      (∃ n, (answersFrom text.size requests tokens).flatten =
          takeAll requests tokens ++ List.replicate n (.ofEnd text.size) ∧
        (l.finished = false → n = 0)) ∧
      (l.finished = true ↔ ∃ t ∈ takeAll requests tokens, t.endsRun = true) ∧
      (l.finished = true → ∀ more : List Request,
        l.answerAll more = .ok (more.map (Request.atEnd text.size), l)) ∧
      ∀ t ∈ tokens, t.kind = .endOfInput → t = .ofEnd text.size := by
  obtain ⟨visits, run⟩ := exists_run_of_text text
  have ahead := Lexer.ahead_ofText name fits run
  obtain ⟨l, later, answered, serves, _⟩ := ahead.answerAll_eq requests
  have owed : (Lexer.ofText name text).owed visits = tokensOfVisits visits := rfl
  have size : (Lexer.ofText name text).text.size = text.size := rfl
  rw [owed, size] at answered
  rw [owed] at serves
  have parts := takeAll_append_leaveAll requests (tokensOfVisits visits)
  have left : l.owed later = leaveAll requests (tokensOfVisits visits) :=
    serves.owed_of_append parts
  have finished := serves.ahead.finished_iff
  refine ⟨tokensOfVisits visits, l, lex_of_run name fits run, answered, ⟨_, parts⟩, ?_, ?_, ?_,
    run.eq_ofEnd⟩
  · obtain ⟨n, flat, idle⟩ := exists_flatten_answersFrom text.size requests (tokensOfVisits visits)
    refine ⟨n, flat, ?_⟩
    intro unfinished
    apply idle
    rw [← left]
    exact serves.ahead.unfinished_iff.mp unfinished
  · have ends := run.endsOnce
    rw [← parts] at ends
    rw [finished, left, ends.exists_mem_iff]
  · intro isFinished more
    have same : l.text = text := serves.text
    rw [serves.ahead.answerAll_of_nil (finished.mp isFinished), same]

/-- The end of input is queued behind the last text.  It comes again after the drain. -/
theorem answerAll_eq_answersFrom_of_text :
    ∃ l, (Lexer.ofText [] ['a']).answerAll [.nextToken, .drain, .nextToken, .next] =
        .ok ([[.piece .text [] ['a']], [.ofEnd 1], [.ofEnd 1], []], l) ∧
      l.finished = true ∧
      ∀ more : List Request, l.answerAll more = .ok (more.map (Request.atEnd 1), l) := by
  have fits : Text.Fits ['a'] := by decide
  obtain ⟨tokens, l, lexed, answered, _, _, finished, idle, _⟩ :=
    answerAll_eq_answersFrom [] fits [.nextToken, .drain, .nextToken, .next]
  obtain rfl : [.piece .text [] ['a'], .ofEnd 1] = tokens := Except.ok.inj lexed
  have isFinished : l.finished = true := finished.mpr ⟨.ofEnd 1, by decide, rfl⟩
  exact ⟨l, answered, isFinished, idle isFinished⟩

end TemplateLexer
