import TemplateLexer.Text.Utf8

/-!
# Checking for UTF-8

A check reads bytes up to the first malformed sequence.  It runs the machine that cuts bytes
into pieces and stops where the machine finds no character.  Bytes that end inside a character
are told from bytes that no character goes on with, since more bytes could still make the
first ones a character.

A check can be resumed behind the malformed sequence.  The sequence is not empty, so less is
left each time (`length_drop_lt`).
-/

namespace TemplateLexer.Text

/-- Where bytes stop being UTF-8. -/
structure Utf8Error where
  /-- How many bytes are characters up to there. -/
  validUpTo : Nat
  /-- How many bytes are malformed there, or none if the bytes end inside a character. -/
  errorLength? : Option Nat
deriving DecidableEq, Repr

/-- The outcome of a check with a character in front of the bytes. -/
def outcomeBehind (c : Char) : Except Utf8Error Text → Except Utf8Error Text
  | .ok t => .ok (c :: t)
  | .error e => .error { e with validUpTo := c.utf8Size + e.validUpTo }

/-- What a check makes of a step of the machine, if it knows how to go on.  It stops at the
first malformed sequence. -/
def checkStep (goOn : Option Partial → Except Utf8Error Text) :
    List Piece × Option Partial → Except Utf8Error Text
  | ([], held) => goOn held
  | (.char c :: _, held) => outcomeBehind c (goOn held)
  | (.malformed length :: _, _) => .error ⟨0, some length⟩

/-- Checks the bytes that follow what was read of a character. -/
def checkFrom : Option Partial → Bytes → Except Utf8Error Text
  | none, [] => .ok []
  | some _, [] => .error ⟨0, none⟩
  | none, b :: bs => checkStep (checkFrom · bs) (startWith b)
  | some p, b :: bs => checkStep (checkFrom · bs) (p.continueWith b)

/-- The text that bytes are, or where they stop being one. -/
def check (bs : Bytes) : Except Utf8Error Text := checkFrom none bs

/-! ## Resuming -/

/-- A step of the machine finds no empty sequence and holds at least one byte. -/
def NotEmpty (step : List Piece × Option Partial) : Prop :=
  (∀ n, .malformed n ∈ step.1 → 0 < n) ∧ ∀ p ∈ step.2, 0 < p.seen

theorem seen_of_ofLead? {b : UInt8} {p : Partial} (lead : Partial.ofLead? b = some p) :
    p.seen = 1 := by
  unfold Partial.ofLead? at lead
  grind

theorem notEmpty_startWith (b : UInt8) : NotEmpty (startWith b) := by
  unfold startWith
  grind [NotEmpty, seen_of_ofLead?]

theorem notEmpty_continueWith {p : Partial} (seen : 0 < p.seen) (b : UInt8) :
    NotEmpty (p.continueWith b) := by
  have start := notEmpty_startWith b
  unfold Partial.continueWith
  grind [NotEmpty]

/-- Whether the malformed sequence that was found, if there is one, is not empty. -/
def IsResumable (outcome : Except Utf8Error Text) : Prop :=
  ∀ e n, outcome = .error e → e.errorLength? = some n → 0 < n

theorem isResumable_outcomeBehind (c : Char) {outcome : Except Utf8Error Text}
    (resumable : IsResumable outcome) : IsResumable (outcomeBehind c outcome) := by
  intro e n failed length
  cases outcome with
  | ok t => cases failed
  | error e' =>
      cases failed
      exact resumable e' n rfl length

theorem isResumable_checkStep {goOn : Option Partial → Except Utf8Error Text}
    (resumable : ∀ held, (∀ p ∈ held, 0 < p.seen) → IsResumable (goOn held))
    {step : List Piece × Option Partial} (notEmpty : NotEmpty step) :
    IsResumable (checkStep goOn step) := by
  obtain ⟨pieces, held⟩ := step
  cases pieces with
  | nil => exact resumable held notEmpty.2
  | cons piece _ =>
      cases piece with
      | char c => exact isResumable_outcomeBehind c (resumable held notEmpty.2)
      | malformed length =>
          intro e n failed found
          cases failed
          cases found
          exact notEmpty.1 _ List.mem_cons_self

theorem isResumable_checkFrom (bs : Bytes) :
    ∀ held : Option Partial, (∀ p ∈ held, 0 < p.seen) → IsResumable (checkFrom held bs) := by
  induction bs with
  | nil =>
      intro held _ e n failed found
      cases held with
      | none => cases failed
      | some p =>
          cases failed
          cases found
  | cons b bs ih =>
      intro held seen
      cases held with
      | none => exact isResumable_checkStep ih (notEmpty_startWith b)
      | some p => exact isResumable_checkStep ih (notEmpty_continueWith (seen p rfl) b)

/-- Less is left behind a malformed sequence. -/
theorem length_drop_lt {bs : Bytes} {e : Utf8Error} (failed : check bs = .error e) :
    ((bs.drop e.validUpTo).drop (e.errorLength?.getD (bs.drop e.validUpTo).length)).length <
      bs.length := by
  have nonempty : 0 < bs.length := by
    cases bs with
    | nil => cases failed
    | cons => exact Nat.succ_pos _
  simp only [List.length_drop]
  cases found : e.errorLength? with
  | none => simpa using nonempty
  | some n =>
      have positive := isResumable_checkFrom bs none nofun e n failed found
      rw [Option.getD_some]
      omega

end TemplateLexer.Text
