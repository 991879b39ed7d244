import TemplateLexer.Proofs.Run

/-!
# The tokens of a run

A run is a list of visits, and it depends on the width of the last read.  Its tokens do
not.  `Yields` relates a split of a text and a mode there to the tokens that are made from
there on, and leaves out everything else.

The lexer gives the tokens that its text yields and no others (`lex_eq_ok_iff`).  So two
texts are compared by what they yield, and what is known about the tokens of any run is
proved by induction on `Yields`.
-/

namespace TemplateLexer

open Text

/-- The tokens that are made from a mode on, after what was taken and at the rest. -/
inductive Yields : Mode → Text → Text → List Token → Prop where
  | halt {mode : Mode} {taken rest : Text} {s : Step} (halts : Halts taken mode rest s) :
      Yields mode taken rest s.tokens
  | go {mode next : Mode} {taken moved rest : Text} {tokens later : List Token}
      (moves : Moves taken mode moved rest tokens next)
      (yields : Yields next (taken ++ moved) rest later) :
      Yields mode taken (moved ++ rest) (tokens ++ later)

variable {mode : Mode} {taken rest : Text} {width? : Option Nat} {visits : List Visit}
  {tokens : List Token}

theorem Run.yields (run : Run mode taken rest width? visits) :
    Yields mode taken rest (tokensOfVisits visits) := by
  induction run with
  | halt halts =>
      rw [tokensOfVisits_cons, tokensOfVisits_nil, List.append_nil]
      exact .halt halts
  | go moves _ ih => exact .go moves ih

theorem Yields.exists_run (yields : Yields mode taken rest tokens) (width? : Option Nat) :
    ∃ visits, Run mode taken rest width? visits ∧ tokensOfVisits visits = tokens := by
  induction yields generalizing width? with
  | halt halts => exact ⟨_, .halt halts, List.append_nil _⟩
  | go moves _ ih =>
      obtain ⟨visits, run, made⟩ := ih _
      exact ⟨_, .go moves run, congrArg _ made⟩

theorem exists_yields (taken : Text) (ready : mode.Ready rest) :
    ∃ tokens, Yields mode taken rest tokens := by
  obtain ⟨visits, run⟩ := exists_run taken none ready
  exact ⟨_, run.yields⟩

/-- The lexer gives the tokens that its text yields. -/
theorem lex_eq_ok_iff (name : Text) {text : Text} (fits : text.Fits) :
    lex name text = .ok tokens ↔ Yields .text [] text tokens := by
  constructor
  · intro lexed
    obtain ⟨visits, run⟩ := exists_run_of_text text
    rw [lex_of_run name fits run, Except.ok.injEq] at lexed
    exact lexed ▸ run.yields
  · intro yields
    obtain ⟨visits, run, rfl⟩ := yields.exists_run none
    exact lex_of_run name fits run

theorem Yields.unique {text : Text} {tokens tokens' : List Token} (fits : text.Fits)
    (yields : Yields .text [] text tokens) (yields' : Yields .text [] text tokens') :
    tokens = tokens' := by
  have lexed := (lex_eq_ok_iff [] fits).mpr yields
  rw [(lex_eq_ok_iff [] fits).mpr yields', Except.ok.injEq] at lexed
  exact lexed.symm

/-- The lexer gives tokens for every text. -/
theorem exists_lex (name : Text) {text : Text} (fits : text.Fits) :
    ∃ tokens, lex name text = .ok tokens ∧ Yields .text [] text tokens := by
  obtain ⟨tokens, yields⟩ : ∃ tokens, Yields .text [] text tokens := exists_yields [] trivial
  exact ⟨tokens, (lex_eq_ok_iff name fits).mpr yields, yields⟩

end TemplateLexer
