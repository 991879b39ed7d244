import Mathlib.Data.List.Chain
import TemplateLexer.Proofs.Work

/-!
# The record of a run

The events of a drained lexer are a record of its run.  They come in blocks, one for each step.
A block announces the step and tells its tokens, and behind the last block the halt is told.

`Records` says what can be read off the events.  Each kind of event is read with a function of
its own.  The steps that are announced are those that were taken, the events of tokens tell every
token once and in order, and the halt tells where the reader ended.

* `Run.tells`: every step tells of its tokens, in order and behind its announcement.
* `Lexer.Makes.flatMap_events`: the events come in blocks, with the halt behind them.
* `Run.isChain`, `Run.pairwise`: the modes of a run follow the circle of the modes, and its places
  do not go back.
* `filterMap_announced`: the blocks tell the tokens and nothing else.
-/

namespace TemplateLexer

open Text

/-! ## Reading events -/

namespace Event

/-- The mode and the place of a step that begins. -/
def step? : Event → Option (Mode × Nat)
  | step mode pos => some (mode, pos)
  | emitted _ _ | failed _ | halted _ => none

/-- The kind and the span of a token that was made. -/
def emitted? : Event → Option (TokenKind × Span)
  | emitted kind span => some (kind, span)
  | step _ _ | failed _ | halted _ => none

/-- The message and the span of an error. -/
def failed? : Event → Option (Text × Span)
  | failed e => some (e.message, e.span)
  | step _ _ | emitted _ _ | halted _ => none

/-- The place of a halt. -/
def halted? : Event → Option Nat
  | halted pos => some pos
  | step _ _ | emitted _ _ | failed _ => none

theorem ofToken_cases (t : Token) :
    (∃ e, ofToken t = failed e) ∨ ofToken t = emitted t.kind t.span := by
  rw [ofToken]
  split
  · exact Or.inl ⟨_, rfl⟩
  · exact Or.inr rfl

end Event

/-- The block of a step: its announcement, and then its tokens. -/
def Visit.announced (v : Visit) : List Event :=
  .step v.mode v.pos :: v.step.tokens.map Event.ofToken

/-- The step of a visit tells its block of events, and nothing else. -/
def Visit.Tells (v : Visit) : Prop := v.step.events = v.announced

theorem Visit.Tells.events_of_goes {v : Visit} {next : Mode} (tells : v.Tells)
    (goes : v.step.next? = some next) : v.events = v.announced := by
  rw [Visit.events, tells, goes]
  exact List.append_nil _

theorem Visit.Tells.events_of_halts {v : Visit} (tells : v.Tells) (halts : v.step.next? = none) :
    v.events = v.announced ++ [.halted v.step.reader.pos] := by
  rw [Visit.events, tells, halts]
  rfl

/-- The modes that follow each other. -/
inductive Mode.LeadsTo : Mode → Mode → Prop where
  | opening : LeadsTo text opening
  | block : LeadsTo opening block
  | number : LeadsTo block number
  | afterNumber : LeadsTo number block
  | closing : LeadsTo block closing
  | text : LeadsTo closing text

/-- Some events are the record of visits and of their tokens, with a halt at an offset. -/
structure Records (events : List Event) (visits : List Visit) (tokens : List Token)
    (stop : Nat) : Prop where
  /-- There is one block for each visit, and then the halt. -/
  blocks : events = visits.flatMap Visit.announced ++ [.halted stop]
  /-- There is no other halt. -/
  halted : events.filterMap Event.halted? = [stop]
  begins : events.head? = some (.step .text 0)
  steps : events.filterMap Event.step? = visits.map fun v => (v.mode, v.pos)
  modes : (visits.map (·.mode)).IsChain Mode.LeadsTo
  places : (visits.map (·.pos)).Pairwise (· ≤ ·)
  emitted : events.filterMap Event.emitted? =
    (tokens.filter (·.kind ≠ .error)).map fun t => (t.kind, t.span)
  /-- The only error that is told is that of the last token, if it has one. -/
  failed : events.filterMap Event.failed? =
    (tokens.getLast?.filter (·.kind = .error)).toList.map fun t => (t.text, t.span)
  length : events.length = visits.length + tokens.length + 1

/-! ## Blocks of events -/

namespace Lexer

variable {l l' : Lexer} {made : List Visit}

/-- A lexer that halted takes no step. -/
theorem Makes.of_halted (makes : l.Makes made l') (halted : l.mode? = none) :
    made = [] ∧ l'.reader = l.reader := by
  induction makes with
  | refl => exact ⟨rfl, rfl⟩
  | handOut _ _ ih => exact ih halted
  | run _ _ goes _ _ _ =>
      rw [halted] at goes
      cases goes

/-- The events of the steps up to the halt come in blocks, with the halt behind them. -/
theorem Makes.flatMap_events {mode : Mode} (makes : l.Makes made l') (goes : l.mode? = some mode)
    (halts : l'.mode? = none) (tells : ∀ v ∈ made, v.Tells) :
    made.flatMap Visit.events = made.flatMap Visit.announced ++ [.halted l'.reader.pos] := by
  induction makes generalizing mode with
  | refl =>
      rw [goes] at halts
      cases halts
  | handOut _ _ ih => exact ih goes halts tells
  | @run _ _ _ s _ _ _ _ _ later ih =>
      obtain ⟨first, others⟩ := List.forall_mem_cons.mp tells
      rw [List.flatMap_cons, List.flatMap_cons]
      cases next : s.next? with
      | some mode' =>
          rw [first.events_of_goes next, ih next halts others, List.append_assoc]
      | none =>
          obtain ⟨rfl, reader⟩ := later.of_halted next
          rw [first.events_of_halts next, reader, List.flatMap_nil, List.flatMap_nil,
            List.append_nil, List.append_nil]
          rfl

end Lexer

/-! ## Modes and places -/

variable {mode next : Mode} {taken moved rest : Text} {width? : Option Nat} {tokens : List Token}
  {visits : List Visit}

theorem Moves.leadsTo (moves : Moves taken mode moved rest tokens next) : mode.LeadsTo next := by
  cases moves with
  | lead => exact .opening
  | opening => exact .block
  | toClosing => exact .closing
  | toNumber => exact .number
  | closing => exact .text
  | number => exact .afterNumber

/-- The first visit of a run is where the run starts. -/
theorem Run.exists_cons (run : Run mode taken rest width? visits) :
    ∃ s later, visits = ⟨mode, size taken, s⟩ :: later := by
  cases run with
  | halt => exact ⟨_, _, rfl⟩
  | go => exact ⟨_, _, rfl⟩

/-- Every step of a run tells of its tokens right behind its announcement. -/
theorem Run.tells (run : Run mode taken rest width? visits) : ∀ v ∈ visits, v.Tells := by
  induction run with
  | halt halts =>
      intro v member
      rw [List.mem_singleton.mp member]
      cases halts with
      | last => rfl
      | offence => rfl
  | go _ _ ih => exact List.forall_mem_cons.mpr ⟨rfl, ih⟩

theorem Run.isChain (run : Run mode taken rest width? visits) :
    (visits.map (·.mode)).IsChain Mode.LeadsTo := by
  induction run with
  | halt => exact List.isChain_singleton _
  | go moves run ih =>
      obtain ⟨s, later, rfl⟩ := run.exists_cons
      exact List.isChain_cons_cons.mpr ⟨moves.leadsTo, ih⟩

theorem Run.le_pos (run : Run mode taken rest width? visits) :
    ∀ v ∈ visits, size taken ≤ v.pos := by
  induction run with
  | halt =>
      intro v member
      rw [List.mem_singleton.mp member]
  | @go _ _ taken moved _ _ _ _ _ _ ih =>
      intro v member
      rcases List.mem_cons.mp member with rfl | later
      · exact Nat.le_refl _
      · exact Nat.le_trans (size_le_append taken moved) (ih v later)

/-- No step begins before the one in front of it. -/
theorem Run.pairwise (run : Run mode taken rest width? visits) :
    (visits.map (·.pos)).Pairwise (· ≤ ·) := by
  induction run with
  | halt => exact List.pairwise_singleton _ _
  | @go _ _ taken moved _ _ _ _ _ run ih =>
      rw [List.map_cons, List.pairwise_cons]
      refine ⟨?_, ih⟩
      intro pos member
      obtain ⟨v, later, rfl⟩ := List.mem_map.mp member
      exact Nat.le_trans (size_le_append taken moved) (run.le_pos v later)

/-! ## What the blocks tell -/

theorem length_announced (visits : List Visit) :
    (visits.flatMap Visit.announced).length = visits.length + (tokensOfVisits visits).length := by
  induction visits with
  | nil => rfl
  | cons v visits ih =>
      simp only [List.flatMap_cons, tokensOfVisits_cons, List.length_append, ih, Visit.announced,
        List.length_cons, List.length_map]
      omega

theorem filterMap_step_announced (visits : List Visit) :
    (visits.flatMap Visit.announced).filterMap Event.step? =
      visits.map fun v => (v.mode, v.pos) := by
  induction visits with
  | nil => rfl
  | cons v visits ih =>
      have silent : (v.step.tokens.map Event.ofToken).filterMap Event.step? = [] := by
        refine List.filterMap_eq_nil_iff.mpr ?_
        intro event member
        obtain ⟨t, _, rfl⟩ := List.mem_map.mp member
        rcases Event.ofToken_cases t with ⟨e, fails⟩ | made
        · rw [fails]
          rfl
        · rw [made]
          rfl
      have first : (Event.step v.mode v.pos).step? = some (v.mode, v.pos) := rfl
      rw [List.flatMap_cons, List.filterMap_append, ih, Visit.announced,
        List.filterMap_cons_some first, silent]
      rfl

/-- What is not read off announcements is read off the tokens. -/
theorem filterMap_announced {α : Type} {read : Event → Option α}
    (silent : ∀ mode pos, read (.step mode pos) = none) (visits : List Visit) :
    (visits.flatMap Visit.announced).filterMap read =
      (tokensOfVisits visits).filterMap fun t => read (.ofToken t) := by
  induction visits with
  | nil => rfl
  | cons v visits ih =>
      rw [List.flatMap_cons, List.filterMap_append, ih, Visit.announced,
        List.filterMap_cons_none (silent _ _), List.filterMap_map, tokensOfVisits_cons,
        List.filterMap_append]
      rfl

theorem filterMap_halted_announced (visits : List Visit) :
    (visits.flatMap Visit.announced).filterMap Event.halted? = [] := by
  rw [filterMap_announced fun _ _ => rfl]
  refine List.filterMap_eq_nil_iff.mpr ?_
  intro t _
  rcases Event.ofToken_cases t with ⟨e, fails⟩ | made
  · rw [fails]
    rfl
  · rw [made]
    rfl

/-- A token is that of an error, or it has none. -/
inductive Token.Told : Token → Prop where
  | error (e : LexError) : Told (.ofError e)
  | other {t : Token} (noError : t.kind ≠ .error) (none : t.error? = none) : Told t

theorem Moves.told (moves : Moves taken mode moved rest tokens next) : ∀ t ∈ tokens, t.Told := by
  intro t member
  cases moves with
  | lead =>
      obtain ⟨_, rfl⟩ := mem_textPieces.mp member
      exact .other nofun rfl
  | opening | closing | number =>
      rw [List.mem_singleton.mp member]
      exact .other nofun rfl
  | toClosing | toNumber => cases member

theorem Halts.told {s : Step} (halts : Halts taken mode rest s) : ∀ t ∈ s.tokens, t.Told := by
  intro t member
  cases halts with
  | last =>
      rcases List.mem_append.mp member with piece | ending
      · obtain ⟨_, rfl⟩ := mem_textPieces.mp piece
        exact .other nofun rfl
      · rw [List.mem_singleton.mp ending]
        exact .other nofun rfl
  | offence =>
      rw [List.mem_singleton.mp member]
      exact .error _

theorem Run.told (run : Run mode taken rest width? visits) :
    ∀ t ∈ tokensOfVisits visits, t.Told := by
  induction run with
  | halt halts =>
      rw [tokensOfVisits_cons, tokensOfVisits_nil, List.append_nil]
      exact halts.told
  | go moves _ ih =>
      rw [tokensOfVisits_cons]
      exact List.forall_mem_append.mpr ⟨moves.told, ih⟩

theorem Token.Told.emitted?_eq {t : Token} (told : t.Told) :
    (Event.ofToken t).emitted? = if t.kind ≠ .error then some (t.kind, t.span) else none := by
  cases told with
  | error e => rfl
  | other noError unfailed =>
      rw [Event.ofToken, unfailed, if_pos noError]
      rfl

theorem Token.Told.failed?_eq {t : Token} (told : t.Told) :
    (Event.ofToken t).failed? = if t.kind = .error then some (t.text, t.span) else none := by
  cases told with
  | error e => rfl
  | other noError unfailed =>
      rw [Event.ofToken, unfailed, if_neg noError]
      rfl

/-- The events of tokens tell all of them but errors. -/
theorem filterMap_emitted (told : ∀ t ∈ tokens, t.Told) :
    (tokens.filterMap fun t => (Event.ofToken t).emitted?) =
      (tokens.filter (·.kind ≠ .error)).map fun t => (t.kind, t.span) := by
  rw [← List.filterMap_eq_map, List.filterMap_filter]
  refine List.filterMap_congr ?_
  intro t member
  simp only [(told t member).emitted?_eq, decide_eq_true_eq]
  rfl

/-- The failures among the events tell the errors. -/
theorem filterMap_failed (told : ∀ t ∈ tokens, t.Told) :
    (tokens.filterMap fun t => (Event.ofToken t).failed?) =
      (tokens.filter (·.kind = .error)).map fun t => (t.text, t.span) := by
  rw [← List.filterMap_eq_map, List.filterMap_filter]
  refine List.filterMap_congr ?_
  intro t member
  simp only [(told t member).failed?_eq, decide_eq_true_eq]
  rfl

/-- An error is the last token. -/
theorem EndsOnce.filter_error (ends : EndsOnce tokens) :
    tokens.filter (·.kind = .error) = (tokens.getLast?.filter (·.kind = .error)).toList := by
  induction ends with
  | @last t _ =>
      by_cases failed : t.kind = .error
      · simp [Option.filter, failed]
      · simp [Option.filter, failed]
  | @cons t ts goes ends ih =>
      have noError : t.kind ≠ .error := by
        intro failed
        rw [Token.endsRun, failed] at goes
        cases goes
      obtain ⟨u, us, rfl⟩ := List.exists_cons_of_ne_nil ends.ne_nil
      rw [List.filter_cons_of_neg (by simpa using noError), ih, List.getLast?_cons_cons]

/-! ## The record -/

/-- The events of a drained lexer are the record of its run. -/
theorem drain_records (name : Text) {text : Text} (fits : text.Fits) :
    ∃ tokens visits l, lex name text = .ok tokens ∧
      (Lexer.ofText name text).Drains tokens visits l ∧
      Records l.events visits tokens l.reader.pos := by
  obtain ⟨visits, run⟩ := exists_run_of_text text
  obtain ⟨l, drains⟩ := (Lexer.ahead_ofText name fits run).drains
  refine ⟨tokensOfVisits visits, visits, l, lex_of_run name fits run, drains, ?_⟩
  have makes := (drains.makes_iff visits).mpr rfl
  have blocks : l.events = visits.flatMap Visit.announced ++ [.halted l.reader.pos] := by
    rw [Lexer.events, makes.log, List.reverse_append, List.reverse_reverse,
      ← makes.flatMap_events rfl drains.halts run.tells]
    rfl
  have told := run.told
  rw [blocks]
  exact {
    blocks := rfl
    halted := by
      rw [List.filterMap_append, filterMap_halted_announced]
      rfl
    begins := by
      obtain ⟨s, later, rfl⟩ := run.exists_cons
      rfl
    steps := by
      rw [List.filterMap_append, filterMap_step_announced]
      exact List.append_nil _
    modes := run.isChain
    places := run.pairwise
    emitted := by
      rw [List.filterMap_append, filterMap_announced fun _ _ => rfl, filterMap_emitted told]
      exact List.append_nil _
    failed := by
      rw [List.filterMap_append, filterMap_announced fun _ _ => rfl, filterMap_failed told,
        run.endsOnce.filter_error]
      exact List.append_nil _
    length := by
      rw [List.length_append, length_announced]
      rfl }

/-- A text and a delimiter are emitted in front of an error. -/
theorem drain_records_of_error :
    ∃ tokens visits l, lex [] ['a', '{', '{', ' ', 'é'] = .ok tokens ∧
      (Lexer.ofText [] ['a', '{', '{', ' ', 'é']).Drains tokens visits l ∧
      l.events.filterMap Event.emitted? = [(.text, ⟨0, 1⟩), (.leftDelimiter, ⟨1, 3⟩)] ∧
      l.events.filterMap Event.failed? =
        [(LexError.Cause.message (.unexpectedCharacter 'é'), ⟨4, 6⟩)] := by
  have fits : Text.Fits ['a', '{', '{', ' ', 'é'] := by decide
  obtain ⟨tokens, visits, l, lexed, drains, records⟩ := drain_records [] fits
  have made : lex [] ['a', '{', '{', ' ', 'é'] = .ok (tokensOf ['a', '{', '{', ' ', 'é']) := by
    decide +kernel
  obtain rfl := Except.ok.inj (made.symm.trans lexed)
  refine ⟨_, visits, l, lexed, drains, ?_, ?_⟩
  · rw [records.emitted]
    decide +kernel
  · rw [records.failed]
    decide +kernel

end TemplateLexer
