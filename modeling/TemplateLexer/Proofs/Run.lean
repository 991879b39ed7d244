import Mathlib.Logic.Relation
import TemplateLexer.Lexer.Basic
import TemplateLexer.Proofs.Step

/-!
# Runs

A *run* is a sequence of steps up to the one that halts.  Each step starts where the
one before it ended, in the mode that it named.  `Run` lists the steps of a run as
*visits*: the mode, the place and the result of each.  The tokens of the run are those
of its visits in order, and so are its events.

A lexer stands somewhere in a run.  `Lexer.Ahead` says which visits are ahead of it.
The tokens that it *owes* are those in its queue and those of the visits ahead.  This
view is what the requests to a lexer are judged by.

* `exists_run`: every mode that is ready starts a run.
* `Lexer.Ahead.nextToken`: a request takes the first token that is owed.
* `Lexer.Ahead.drain`: the sequence of tokens is all that is owed.
* `lex_of_run`: the tokens of a text are those of its run.
-/

namespace TemplateLexer

open Text

/-! ## Runs and their visits -/

/-- A step of a run: its mode, the place where it began and its result. -/
structure Visit where
  mode : Mode
  pos : Nat
  step : Step

/-- The events that are logged at a visit. -/
def Visit.events (v : Visit) : List Event :=
  v.step.events ++ if v.step.next?.isNone then [.halted v.step.reader.pos] else []

def tokensOfVisits (visits : List Visit) : List Token := visits.flatMap (·.step.tokens)

@[simp] theorem tokensOfVisits_nil : tokensOfVisits [] = [] := rfl

@[simp] theorem tokensOfVisits_cons (v : Visit) (visits : List Visit) :
    tokensOfVisits (v :: visits) = v.step.tokens ++ tokensOfVisits visits := rfl

/-- The visits of a run that starts in a mode, after what was taken and at the rest.  The
run also depends on the width of the last read. -/
inductive Run : Mode → Text → Text → Option Nat → List Visit → Prop where
  | halt {mode : Mode} {taken rest : Text} {width? : Option Nat} {s : Step}
      (halts : Halts taken mode rest s) : Run mode taken rest width? [⟨mode, size taken, s⟩]
  | go {mode next : Mode} {taken moved rest : Text} {width? : Option Nat} {tokens : List Token}
      {visits : List Visit} (moves : Moves taken mode moved rest tokens next)
      (run : Run next (taken ++ moved) rest (next.widthAfter moved width?) visits) :
      Run mode taken (moved ++ rest) width?
        (⟨mode, size taken,
          .announced mode (size taken)
            (.holding (taken ++ moved) [] rest (next.widthAfter moved width?)) tokens
            (some next)⟩ :: visits)

/-- Every mode that is ready starts a run. -/
theorem exists_run {mode : Mode} (taken : Text) {rest : Text} (width? : Option Nat)
    (ready : mode.Ready rest) : ∃ visits, Run mode taken rest width? visits := by
  induction measure : mode.distance rest using Nat.strongRecOn
    generalizing mode taken rest width? with
  | ind n ih =>
      rcases exists_way taken ready with ⟨moved, after, tokens, next, rfl, moves⟩ | ⟨s, halts⟩
      · have nearer : next.distance after < n := measure ▸ moves.distance_lt
        obtain ⟨visits, run⟩ := ih _ nearer (taken ++ moved) _ moves.ready rfl
        exact ⟨_, .go moves run⟩
      · exact ⟨_, .halt halts⟩

variable {mode : Mode} {taken rest : Text} {width? : Option Nat} {visits : List Visit}

/-- A run makes one token that ends it, and makes it last. -/
theorem Run.endsOnce (run : Run mode taken rest width? visits) :
    EndsOnce (tokensOfVisits visits) := by
  induction run with
  | halt halts => simpa using halts.endsOnce
  | go moves _ ih => exact .append moves.goes ih

/-- A run makes at most one token more than there are bytes. -/
theorem Run.length_le (run : Run mode taken rest width? visits) :
    (tokensOfVisits visits).length ≤ size rest + 1 := by
  induction run with
  | halt halts => simpa using halts.length_le
  | go moves _ ih =>
      have := moves.length_le
      simp only [tokensOfVisits_cons, Step.tokens_announced, List.length_append, size_append]
      omega

/-- One of the first two steps of a run makes a token, and the first one does if its mode
is not quiet. -/
theorem Run.speaks (run : Run mode taken rest width? visits) :
    ∃ v later, visits = v :: later ∧
      (v.step.tokens = [] → mode.isQuiet = true ∧
        ∃ v' later', later = v' :: later' ∧ v'.step.tokens ≠ []) := by
  cases run with
  | halt halts =>
      refine ⟨_, _, rfl, fun silent => ?_⟩
      have ends := halts.endsOnce
      rw [silent] at ends
      cases ends
  | go moves run =>
      refine ⟨_, _, rfl, fun silent => ⟨(moves.speaks silent).1, ?_⟩⟩
      have loud := (moves.speaks silent).2
      cases run with
      | halt halts =>
          refine ⟨_, _, rfl, fun silent' => ?_⟩
          have ends := halts.endsOnce
          rw [silent'] at ends
          cases ends
      | go moves' run' =>
          refine ⟨_, _, rfl, fun silent' => ?_⟩
          have quiet := (moves'.speaks silent').1
          rw [loud] at quiet
          cases quiet

/-! ## A lexer in its run -/

namespace Lexer

/-- The lexer after a visit. -/
def visit (l : Lexer) (v : Visit) : Lexer :=
  { l with
    reader := v.step.reader
    mode? := v.step.next?
    queue := l.queue ++ v.step.tokens
    log := v.events.reverse ++ l.log }

/-- The lexer after it handed out the first token of its queue. -/
def handOut (l : Lexer) (t : Token) (queue : List Token) : Lexer :=
  { l with queue, finished := l.finished || t.endsRun }

/-- The visits that are ahead in a mode or after the halt. -/
inductive Way : Option Mode → Reader → List Visit → Prop where
  | halted (r : Reader) : Way none r []
  | goes {mode : Mode} {taken rest : Text} {width? : Option Nat} {visits : List Visit}
      (ready : mode.Ready rest) (run : Run mode taken rest width? visits) :
      Way (some mode) (.holding taken [] rest width?) visits

/-- The tokens that a lexer owes, with the given visits ahead. -/
def owed (l : Lexer) (visits : List Visit) : List Token := l.queue ++ tokensOfVisits visits

/-- A lexer has some visits ahead of it. -/
structure Ahead (l : Lexer) (visits : List Visit) : Prop where
  /-- The offsets of its text fit a machine word. -/
  fits : l.text.Fits
  /-- The visits are the run from where it stands. -/
  way : Way l.mode? l.reader visits
  /-- It is finished once it owes nothing, and until then it owes one last token. -/
  ends : (l.finished = true ∧ l.owed visits = []) ∨
    (l.finished = false ∧ EndsOnce (l.owed visits))
  /-- It owes at most one token more than its text has bytes. -/
  few : (l.owed visits).length ≤ l.text.size + 1

variable {l : Lexer} {v : Visit} {later : List Visit}

theorem owed_visit : (l.visit v).owed later = l.owed (v :: later) := by
  simp [owed, visit]

/-- In a mode, the visits ahead are the run from a split of the text. -/
theorem Ahead.exists_run (ahead : l.Ahead visits) (goes : l.mode? = some mode) :
    ∃ taken rest width?, l.reader = .holding taken [] rest width? ∧ mode.Ready rest ∧
      Run mode taken rest width? visits := by
  have way := ahead.way
  rw [goes] at way
  generalize l.reader = r at way
  cases way with
  | goes ready run => exact ⟨_, _, _, rfl, ready, run⟩

/-- With visits ahead there is a mode, and the lexer owes a token. -/
theorem Ahead.exists_mode (ahead : l.Ahead (v :: later)) :
    ∃ mode, l.mode? = some mode ∧ l.finished = false := by
  cases goes : l.mode? with
  | none =>
      have way := ahead.way
      rw [goes] at way
      cases way
  | some mode =>
      obtain ⟨taken, rest, _, _, _, run⟩ := ahead.exists_run goes
      rcases ahead.ends with ⟨_, nothing⟩ | ⟨unfinished, _⟩
      · have ends := run.endsOnce
        rw [(List.append_eq_nil_iff.mp nothing).2] at ends
        cases ends
      · exact ⟨mode, rfl, unfinished⟩

theorem run_eq_visit {s : Step} (step : mode.step l.reader = .ok s) :
    l.run mode = .ok (l.visit ⟨mode, l.reader.pos, s⟩) := by
  simp only [Lexer.run, step, bind, Except.bind, pure, Except.pure, visit, Visit.events]

/-- The first of the visits ahead is the next step. -/
theorem Ahead.step_eq (ahead : l.Ahead (v :: later)) (goes : l.mode? = some mode) :
    v.mode = mode ∧ v.pos = l.reader.pos ∧ mode.step l.reader = .ok v.step := by
  obtain ⟨taken, rest, width?, place, _, run⟩ := ahead.exists_run goes
  have fits : (taken ++ rest).Fits := by simpa [Lexer.text, place, Reader.holding] using ahead.fits
  have pos : l.reader.pos = size taken := by simp [place, Reader.holding]
  rw [place] at pos ⊢
  cases run with
  | halt halts => exact ⟨rfl, pos.symm, Mode.step_eq_of_halts halts fits⟩
  | go moves run => exact ⟨rfl, pos.symm, Mode.step_eq_of_moves moves fits⟩

/-- A lexer with visits ahead of it makes the first of them. -/
theorem Ahead.run_eq (ahead : l.Ahead (v :: later)) (goes : l.mode? = some mode) :
    l.run mode = .ok (l.visit v) ∧ (l.visit v).text = l.text ∧ (l.visit v).Ahead later := by
  obtain ⟨taken, rest, width?, place, _, run⟩ := ahead.exists_run goes
  have text : l.text = taken ++ rest := by simp [Lexer.text, place, Reader.holding]
  have ran : l.run mode = .ok (l.visit v) := by
    obtain ⟨rfl, pos, step⟩ := ahead.step_eq goes
    have made := run_eq_visit step
    rwa [← pos] at made
  have after : (l.visit v).text = l.text ∧ Way (l.visit v).mode? (l.visit v).reader later := by
    rw [text]
    cases run with
    | halt halts =>
        refine ⟨halts.text_eq, ?_⟩
        simp only [visit, halts.next_eq_none]
        exact .halted _
    | go moves run => exact ⟨by simp [Lexer.text, visit, Reader.holding], .goes moves.ready run⟩
  obtain ⟨same, way⟩ := after
  refine ⟨ran, same, by rw [same]; exact ahead.fits, way, ?_, ?_⟩
  · rw [owed_visit]
    exact ahead.ends
  · rw [owed_visit, same]
    exact ahead.few

/-- A lexer with a queue hands out its first token. -/
theorem Ahead.handOut {t : Token} {queue : List Token} (ahead : l.Ahead visits)
    (front : l.queue = t :: queue) :
    (l.handOut t queue).Ahead visits := by
  have owes : l.owed visits = t :: (l.handOut t queue).owed visits := by
    simp [owed, Lexer.handOut, front]
  refine ⟨ahead.fits, ahead.way, ?_, ?_⟩
  · rcases ahead.ends with ⟨_, nothing⟩ | ⟨unfinished, ends⟩
    · rw [owes] at nothing
      cases nothing
    · rw [owes] at ends
      generalize remains : (l.handOut t queue).owed visits = ts at ends
      cases ends with
      | last ends => exact Or.inl ⟨by simp [Lexer.handOut, ends], rfl⟩
      | cons goes ends => exact Or.inr ⟨by simp [Lexer.handOut, unfinished, goes], ends⟩
  · have few := ahead.few
    rw [owes, List.length_cons] at few
    exact Nat.le_of_succ_le few

/-! ## Requests -/

/-- A lexer hands out a token of its queue, or it takes a step if the queue is empty and it
is not finished. -/
inductive Transition : Lexer → Lexer → Prop where
  | handOut {l : Lexer} {t : Token} {queue : List Token} (front : l.queue = t :: queue) :
      Transition l (l.handOut t queue)
  | run {l l' : Lexer} {mode : Mode} (empty : l.queue = []) (unfinished : l.finished = false)
      (goes : l.mode? = some mode) (ran : l.run mode = .ok l') : Transition l l'

/-- A lexer gets to another by transitions. -/
def Reaches : Lexer → Lexer → Prop := Relation.ReflTransGen Transition

/-- What a request does.  By transitions it hands out the first of the tokens that are
owed, and makes some of the visits that are ahead.  The others are still ahead, and so are
their tokens.  The text stays, and the events of the visits made are logged. -/
structure Serves (l : Lexer) (visits : List Visit) (tokens : List Token) (l' : Lexer)
    (later : List Visit) : Prop where
  ahead : l'.Ahead later
  owed : l.owed visits = tokens ++ l'.owed later
  text : l'.text = l.text
  reaches : l.Reaches l'
  log : ∃ made, visits = made ++ later ∧ l'.log = (made.flatMap Visit.events).reverse ++ l.log

theorem Serves.refl (ahead : l.Ahead visits) : l.Serves visits [] l visits :=
  ⟨ahead, rfl, rfl, .refl, [], rfl, rfl⟩

theorem Serves.trans {tokens tokens' : List Token} {l' l'' : Lexer} {last : List Visit}
    (first : l.Serves visits tokens l' later) (second : l'.Serves later tokens' l'' last) :
    l.Serves visits (tokens ++ tokens') l'' last := by
  obtain ⟨made, split, log⟩ := first.log
  obtain ⟨made', split', log'⟩ := second.log
  refine ⟨second.ahead, ?_, second.text.trans first.text, first.reaches.trans second.reaches,
    made ++ made', ?_, ?_⟩
  · rw [first.owed, second.owed, List.append_assoc]
  · rw [split, split', List.append_assoc]
  · rw [log', log, List.flatMap_append, List.reverse_append, List.append_assoc]

theorem Ahead.serves_handOut {t : Token} {queue : List Token} (ahead : l.Ahead visits)
    (front : l.queue = t :: queue) : l.Serves visits [t] (l.handOut t queue) visits := by
  refine ⟨ahead.handOut front, ?_, rfl, .single (.handOut front), [], rfl, rfl⟩
  simp [Lexer.owed, Lexer.handOut, front]

theorem Ahead.serves_visit (ahead : l.Ahead (v :: later)) (empty : l.queue = []) :
    l.Serves (v :: later) [] (l.visit v) later := by
  obtain ⟨mode, goes, unfinished⟩ := ahead.exists_mode
  obtain ⟨ran, same, after⟩ := ahead.run_eq goes
  exact ⟨after, owed_visit.symm, same, .single (.run empty unfinished goes ran), [v], rfl,
    by simp [visit]⟩

theorem nextTokenWithin_of_queue {t : Token} {queue : List Token} (bound : Nat)
    (front : l.queue = t :: queue) :
    nextTokenWithin bound l = .ok (t, l.handOut t queue) := by
  cases bound with
  | zero => simp [nextTokenWithin, front, handOut]
  | succ bound => simp [nextTokenWithin, front, handOut]

theorem Ahead.nextTokenWithin_succ (ahead : l.Ahead (v :: later)) (empty : l.queue = [])
    (bound : Nat) :
    nextTokenWithin (bound + 1) l = nextTokenWithin bound (l.visit v) := by
  obtain ⟨mode, goes, unfinished⟩ := ahead.exists_mode
  rw [nextTokenWithin]
  simp only [empty, unfinished, goes, (ahead.run_eq goes).1, bind, Except.bind]
  rfl

/-- With an empty queue a request makes visits up to the first that makes a token.  There
it hands out the first token of that visit. -/
theorem Ahead.nextToken_of_visits (ahead : l.Ahead (v :: later)) (empty : l.queue = []) :
    ∃ (before : Lexer) (spoken : Visit) (after : List Visit) (t : Token) (queue : List Token),
      spoken ∈ v :: later ∧ spoken.step.tokens = t :: queue ∧
      before.queue = [] ∧ before.finished = false ∧
      l.nextToken = .ok (t, (before.visit spoken).handOut t queue) ∧
      l.Serves (v :: later) [t] ((before.visit spoken).handOut t queue) after := by
  obtain ⟨mode, goes, unfinished⟩ := ahead.exists_mode
  have first := ahead.serves_visit empty
  have unfold := ahead.nextTokenWithin_succ empty 1
  cases made : v.step.tokens with
  | cons t queue =>
      have front : (l.visit v).queue = t :: queue := by simp [visit, empty, made]
      exact ⟨l, v, later, t, queue, List.mem_cons_self, made, empty, unfinished,
        unfold.trans (nextTokenWithin_of_queue _ front),
        first.trans (first.ahead.serves_handOut front)⟩
  | nil =>
      -- a silent step is followed by one that makes a token
      obtain ⟨taken, rest, _, _, _, run⟩ := ahead.exists_run goes
      obtain ⟨_, _, split, speaks⟩ := run.speaks
      obtain ⟨rfl, rfl⟩ := List.cons.inj split
      obtain ⟨_, v', later', rfl, loud⟩ := speaks made
      obtain ⟨t, queue, made'⟩ := List.exists_cons_of_ne_nil loud
      have empty' : (l.visit v).queue = [] := by simp [visit, empty, made]
      have front : ((l.visit v).visit v').queue = t :: queue := by
        simp [visit, empty, made, made']
      have second := first.ahead.serves_visit empty'
      refine ⟨l.visit v, v', later', t, queue, by simp, made', empty', unfinished, ?_,
        (first.trans second).trans (second.ahead.serves_handOut front)⟩
      rw [Lexer.nextToken, stepBound, unfold, first.ahead.nextTokenWithin_succ empty' 0]
      exact nextTokenWithin_of_queue _ front

/-- A request takes the first token that is owed. -/
theorem Ahead.nextToken (ahead : l.Ahead visits) (owes : l.owed visits ≠ []) :
    ∃ t l' later, l.nextToken = .ok (t, l') ∧ l.Serves visits [t] l' later := by
  cases front : l.queue with
  | cons t queue =>
      exact ⟨t, _, visits, nextTokenWithin_of_queue _ front, ahead.serves_handOut front⟩
  | nil =>
      cases visits with
      | nil => exact absurd (by simp [owed, front]) owes
      | cons v later =>
          obtain ⟨_, _, after, t, _, _, _, _, _, taken, serves⟩ := ahead.nextToken_of_visits front
          exact ⟨t, _, after, taken, serves⟩

theorem Ahead.finished_iff (ahead : l.Ahead visits) :
    l.finished = true ↔ l.owed visits = [] := by
  rcases ahead.ends with ⟨finished, nothing⟩ | ⟨unfinished, ends⟩
  · simp [finished, nothing]
  · constructor
    · intro finished
      rw [unfinished] at finished
      cases finished
    · intro nothing
      rw [nothing] at ends
      cases ends

theorem Ahead.unfinished_iff (ahead : l.Ahead visits) :
    l.finished = false ↔ l.owed visits ≠ [] := by
  rw [← Bool.not_eq_true, Ne, ahead.finished_iff]

/-- Once nothing is owed no visit is ahead. -/
theorem Ahead.eq_nil (ahead : l.Ahead visits) (nothing : l.owed visits = []) : visits = [] := by
  cases visits with
  | nil => rfl
  | cons v later =>
      obtain ⟨mode, _, unfinished⟩ := ahead.exists_mode
      rw [ahead.finished_iff.mpr nothing] at unfinished
      cases unfinished

/-- A finished lexer gives the end of input, and stays as it is. -/
theorem Ahead.nextToken_of_nil (ahead : l.Ahead visits) (nothing : l.owed visits = []) :
    l.nextToken = .ok (.ofEnd l.text.size, l) := by
  have finished := ahead.finished_iff.mpr nothing
  have empty : l.queue = [] := (List.append_eq_nil_iff.mp nothing).1
  simp [Lexer.nextToken, stepBound, nextTokenWithin, empty, finished]

/-- As a sequence, the lexer gives the first token that is owed, or none. -/
theorem Ahead.next? (ahead : l.Ahead visits) :
    ∃ t? l' later, l.next? = .ok (t?, l') ∧ l.Serves visits t?.toList l' later ∧
      (t? = none ↔ l.owed visits = []) := by
  by_cases nothing : l.owed visits = []
  · have finished := ahead.finished_iff.mpr nothing
    refine ⟨none, l, visits, ?_, .refl ahead, by simp [nothing]⟩
    simp [Lexer.next?, finished]
  · have unfinished := ahead.unfinished_iff.mpr nothing
    obtain ⟨t, l', later, request, serves⟩ := ahead.nextToken nothing
    refine ⟨some t, l', later, ?_, serves, by simp [nothing]⟩
    simp [Lexer.next?, unfinished, request, bind, Except.bind, pure, Except.pure]

theorem Ahead.drainWithin {bound : Nat} (ahead : l.Ahead visits)
    (enough : (l.owed visits).length < bound) :
    ∃ l', l.drainWithin bound = .ok (l.owed visits, l') ∧
      l.Serves visits (l.owed visits) l' [] := by
  induction bound generalizing l visits with
  | zero => exact absurd enough (Nat.not_lt_zero _)
  | succ bound ih =>
      obtain ⟨t?, l', later, request, serves, none_iff⟩ := ahead.next?
      cases t? with
      | none =>
          have nothing := none_iff.mp rfl
          have same : l' = l := by
            have finished := ahead.finished_iff.mpr nothing
            simp only [Lexer.next?, finished, if_true, Except.ok.injEq, Prod.mk.injEq] at request
            exact request.2.symm
          refine ⟨l, ?_, ?_⟩
          · simp [Lexer.drainWithin, request, nothing, same, bind, Except.bind, pure, Except.pure]
          · rw [nothing]
            exact ahead.eq_nil nothing ▸ .refl ahead
      | some t =>
          have owes : l.owed visits = t :: l'.owed later := serves.owed
          have shorter : (l'.owed later).length < bound := by
            rw [owes, List.length_cons] at enough
            exact Nat.lt_of_succ_lt_succ enough
          obtain ⟨l'', rest, serves'⟩ := ih serves.ahead shorter
          refine ⟨l'', ?_, ?_⟩
          · simp [Lexer.drainWithin, request, rest, owes, bind, Except.bind, pure, Except.pure]
          · rw [owes]
            exact serves.trans serves'

/-- The sequence of tokens is all that is owed. -/
theorem Ahead.drain (ahead : l.Ahead visits) :
    ∃ l', l.drain = .ok (l.owed visits, l') ∧ l.Serves visits (l.owed visits) l' [] :=
  ahead.drainWithin (Nat.lt_succ_of_le ahead.few)

/-! ## From the start of a text -/

variable {text : Text}

/-- At the start of a text its whole run is ahead. -/
theorem ahead_ofText (name : Text) (fits : text.Fits) (run : Run .text [] text none visits) :
    (ofText name text).Ahead visits where
  fits := fits
  way := .goes (show Mode.text.Ready text from trivial) run
  ends := Or.inr ⟨rfl, run.endsOnce⟩
  few := run.length_le

end Lexer

/-- A text has one run. -/
theorem exists_run_of_text (text : Text) : ∃ visits, Run .text [] text none visits :=
  exists_run [] none trivial

/-- The tokens of a text are those of its run. -/
theorem lex_of_run {text : Text} (name : Text) (fits : text.Fits)
    (run : Run .text [] text none visits) : lex name text = .ok (tokensOfVisits visits) := by
  obtain ⟨l, drained, _⟩ := (Lexer.ahead_ofText name fits run).drain
  have owed : (Lexer.ofText name text).owed visits = tokensOfVisits visits := rfl
  simp [lex, drained, owed, bind, Except.bind, pure, Except.pure]

end TemplateLexer
