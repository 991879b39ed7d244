import TemplateLexer.Proofs.Loop

/-!
# The work of a run

The work of a lexer is the steps that it takes.  `Lexer.Makes` lists them: a lexer gets to
another by transitions, and the visits on the way are the steps taken.  A drain makes all visits
of the run and no others (`Lexer.Ahead.drains`).

The number of steps is decided by the tokens.  Quiet modes and others take turns.  A step in a
quiet mode makes no token of a block, and a step in another makes one.  So each delimiter and
each number stands for two steps, the one that finds it and the one that makes it, and the step
that halts comes on top (`Run.length_eq`).
-/

namespace TemplateLexer

open Text

/-! ## Tokens of blocks -/

/-- Whether a token of the kind lies in a block or delimits one. -/
def TokenKind.isOfBlock : TokenKind → Bool
  | leftDelimiter | rightDelimiter | number => true
  | error | endOfInput | text => false

/-- The number of delimiters and numbers among some tokens. -/
def blockTokens (tokens : List Token) : Nat := tokens.countP (·.kind.isOfBlock)

theorem blockTokens_append (front back : List Token) :
    blockTokens (front ++ back) = blockTokens front + blockTokens back :=
  List.countP_append

theorem blockTokens_textPieces (taken t : Text) : blockTokens (textPieces taken t) = 0 := by
  refine List.countP_eq_zero.mpr ?_
  intro u member
  obtain ⟨_, rfl⟩ := mem_textPieces.mp member
  exact Bool.false_ne_true

/-- The token that ends a run is of no block. -/
theorem EndsOnce.blockTokens_lt {tokens : List Token} (ends : EndsOnce tokens) :
    blockTokens tokens < tokens.length := by
  induction ends with
  | @last t ends =>
      have outside : ¬ t.kind.isOfBlock = true := by
        rw [Token.endsRun] at ends
        cases kind : t.kind with
        | error | endOfInput => exact Bool.false_ne_true
        | leftDelimiter | rightDelimiter | number | text =>
            rw [kind] at ends
            cases ends
      rw [blockTokens, List.countP_singleton, if_neg outside]
      exact Nat.zero_lt_one
  | @cons t ts _ _ ih =>
      have few : blockTokens (t :: ts) ≤ blockTokens ts + 1 := by
        rw [blockTokens, List.countP_cons]
        split
        · exact Nat.le_refl _
        · exact Nat.le_succ _
      rw [List.length_cons]
      omega

/-! ## Two steps for each token of a block -/

/-- The number of steps already taken towards the next token of a block. -/
def Mode.begun (mode : Mode) : Nat := if mode.isQuiet then 0 else 1

variable {mode next : Mode} {taken moved rest : Text} {width? : Option Nat} {tokens : List Token}
  {visits : List Visit}

/-- A step begins a token of a block or makes it. -/
theorem Moves.begun_eq (moves : Moves taken mode moved rest tokens next) :
    mode.begun + 1 = 2 * blockTokens tokens + next.begun := by
  cases moves with
  | lead =>
      rw [blockTokens_textPieces]
      rfl
  | opening | closing | number | toClosing | toNumber => rfl

theorem Halts.begun_eq {s : Step} (halts : Halts taken mode rest s) :
    mode.begun = 0 ∧ blockTokens s.tokens = 0 := by
  cases halts with
  | last =>
      refine ⟨rfl, ?_⟩
      rw [Step.tokens_announced, blockTokens_append, blockTokens_textPieces]
      rfl
  | offence => exact ⟨rfl, rfl⟩

/-- The number of steps of a run. -/
theorem Run.length_eq (run : Run mode taken rest width? visits) :
    visits.length + mode.begun = 1 + 2 * blockTokens (tokensOfVisits visits) := by
  induction run with
  | halt halts =>
      obtain ⟨quiet, none⟩ := halts.begun_eq
      rw [tokensOfVisits_cons, tokensOfVisits_nil, List.append_nil, none, quiet]
      rfl
  | go moves _ ih =>
      have step := moves.begun_eq
      simp only [tokensOfVisits_cons, Step.tokens_announced, blockTokens_append, List.length_cons]
      omega

/-! ## The steps that are taken -/

namespace Lexer

/-- A lexer gets to another by transitions, and takes some steps on the way. -/
inductive Makes : Lexer → List Visit → Lexer → Prop where
  | refl (l : Lexer) : Makes l [] l
  | handOut {l l' : Lexer} {t : Token} {queue : List Token} {made : List Visit}
      (front : l.queue = t :: queue) (later : Makes (l.handOut t queue) made l') :
      Makes l made l'
  | run {l l' : Lexer} {mode : Mode} {s : Step} {made : List Visit} (empty : l.queue = [])
      (unfinished : l.finished = false) (goes : l.mode? = some mode)
      (step : mode.step l.reader = .ok s)
      (later : Makes (l.visit ⟨mode, l.reader.pos, s⟩) made l') :
      Makes l (⟨mode, l.reader.pos, s⟩ :: made) l'

variable {l l' : Lexer} {made : List Visit}

theorem exists_step_of_run (ran : l.run mode = .ok l') :
    ∃ s, mode.step l.reader = .ok s ∧ l' = l.visit ⟨mode, l.reader.pos, s⟩ := by
  cases step : mode.step l.reader with
  | error fault =>
      rw [Lexer.run, step] at ran
      cases ran
  | ok s =>
      rw [run_eq_visit step] at ran
      exact ⟨s, rfl, (Except.ok.inj ran).symm⟩

/-- Transitions take some steps. -/
theorem Reaches.exists_makes (reaches : l.Reaches l') : ∃ made, l.Makes made l' := by
  induction reaches using Relation.ReflTransGen.head_induction_on with
  | refl => exact ⟨[], .refl _⟩
  | head transition _ ih =>
      obtain ⟨made, makes⟩ := ih
      cases transition with
      | handOut front => exact ⟨made, .handOut front makes⟩
      | run empty unfinished goes ran =>
          obtain ⟨s, step, rfl⟩ := exists_step_of_run ran
          exact ⟨_, .run empty unfinished goes step makes⟩

/-- The steps that are taken are the first of the visits ahead. -/
theorem Makes.ahead (makes : l.Makes made l') (ahead : l.Ahead visits) :
    ∃ later, visits = made ++ later ∧ l'.Ahead later := by
  induction makes generalizing visits with
  | refl => exact ⟨visits, rfl, ahead⟩
  | handOut front _ ih => exact ih (ahead.handOut front)
  | run _ _ goes step _ ih =>
      cases visits with
      | nil =>
          obtain ⟨_, _, _, _, _, run⟩ := ahead.exists_run goes
          cases run
      | cons v later =>
          obtain ⟨mode, pos, s⟩ := v
          obtain ⟨rfl, rfl, step'⟩ := ahead.step_eq goes
          obtain rfl := Except.ok.inj (step.symm.trans step')
          obtain ⟨last, rfl, ahead'⟩ := ih (ahead.run_eq goes).2.2
          exact ⟨last, rfl, ahead'⟩

/-- The events of the steps that are taken are logged. -/
theorem Makes.log (makes : l.Makes made l') :
    l'.log = (made.flatMap Visit.events).reverse ++ l.log := by
  induction makes with
  | refl => rfl
  | handOut _ _ ih => exact ih
  | run _ _ _ _ _ ih =>
      rw [ih, List.flatMap_cons, List.reverse_append, List.append_assoc]
      rfl

/-- Once no visit is ahead the run has halted. -/
theorem Ahead.mode_of_nil (ahead : l.Ahead []) : l.mode? = none := by
  cases goes : l.mode? with
  | none => rfl
  | some mode =>
      obtain ⟨_, _, _, _, _, run⟩ := ahead.exists_run goes
      cases run

/-! ## Draining -/

/-- A drain gives some tokens, and takes some steps and no others. -/
structure Drains (l : Lexer) (tokens : List Token) (visits : List Visit) (l' : Lexer) : Prop where
  drain : l.drain = .ok (tokens, l')
  makes_iff : ∀ made, l.Makes made l' ↔ made = visits
  /-- The run is over. -/
  halts : l'.mode? = none

/-- A drain takes all steps of the run. -/
theorem Ahead.drains (ahead : l.Ahead visits) :
    ∃ l', l.Drains (l.owed visits) visits l' := by
  obtain ⟨l', drained, serves⟩ := ahead.drain
  have nothing : l'.owed [] = [] := by
    have all := serves.owed
    rw [List.self_eq_append_right] at all
    exact all
  have unique : ∀ made, l.Makes made l' → made = visits := by
    intro made makes
    obtain ⟨later, split, ahead'⟩ := makes.ahead ahead
    have finished := serves.ahead.finished_iff.mpr nothing
    have none_left : later = [] := ahead'.eq_nil (ahead'.finished_iff.mp finished)
    rw [split, none_left, List.append_nil]
  refine ⟨l', drained, ?_, serves.ahead.mode_of_nil⟩
  intro made
  constructor
  · exact unique made
  · intro same
    obtain ⟨made', makes⟩ := serves.reaches.exists_makes
    rwa [same, ← unique made' makes]

end Lexer

/-- A text is drained in as many steps as its delimiters and numbers say, and all loops on the
way end within their bounds. -/
theorem drain_work (name : Text) {text : Text} (fits : text.Fits) :
    (∃ tokens visits l, lex name text = .ok tokens ∧
      (Lexer.ofText name text).Drains tokens visits l ∧
      EndsOnce tokens ∧
      visits.length = 1 + 2 * blockTokens tokens ∧
      visits.length ≤ 2 * text.size + 1 ∧
      tokens.length ≤ text.size + 1) ∧
    (∀ l, (Lexer.ofText name text).Reaches l →
      EndsWithin (fun bound => Lexer.nextTokenWithin bound l) Lexer.stepBound ∧
      EndsWithin (fun bound => l.drainWithin bound) (l.text.size + 2)) ∧
    (∀ r, EndsWithin (fun bound => Step.blockWithin bound r) (r.text.length + 1)) ∧
    ∀ valid r, EndsWithin (fun bound => Reader.readWhileWithin valid bound r)
      (r.text.length + 1) := by
  obtain ⟨visits, run⟩ := exists_run_of_text text
  have ahead := Lexer.ahead_ofText name fits run
  refine ⟨?_, ?_, Step.blockWithin_endsWithin, Reader.readWhileWithin_endsWithin⟩
  · obtain ⟨l, drains⟩ := ahead.drains
    have steps : visits.length = 1 + 2 * blockTokens (tokensOfVisits visits) := run.length_eq
    have few := run.length_le
    have inside := run.endsOnce.blockTokens_lt
    refine ⟨tokensOfVisits visits, visits, l, lex_of_run name fits run, drains, run.endsOnce,
      steps, ?_, few⟩
    omega
  · intro l reaches
    obtain ⟨later, ahead'⟩ := reaches.ahead ahead
    exact ⟨ahead'.nextTokenWithin_endsWithin, ahead'.drainWithin_endsWithin⟩

/-- Two delimiters and two numbers take nine steps. -/
theorem drain_work_of_numbers :
    ∃ tokens visits l, lex [] ['{', '{', '1', ' ', '2', '}', '}'] = .ok tokens ∧
      (Lexer.ofText [] ['{', '{', '1', ' ', '2', '}', '}']).Drains tokens visits l ∧
      visits.length = 9 := by
  have fits : Text.Fits ['{', '{', '1', ' ', '2', '}', '}'] := by decide
  obtain ⟨⟨tokens, visits, l, lexed, drains, _, steps, _⟩, _⟩ := drain_work [] fits
  have made : lex [] ['{', '{', '1', ' ', '2', '}', '}'] =
      .ok (tokensOf ['{', '{', '1', ' ', '2', '}', '}']) := by decide +kernel
  have four : blockTokens (tokensOf ['{', '{', '1', ' ', '2', '}', '}']) = 4 := by
    decide +kernel
  obtain rfl := Except.ok.inj (made.symm.trans lexed)
  rw [four] at steps
  exact ⟨_, visits, l, lexed, drains, steps⟩

end TemplateLexer
