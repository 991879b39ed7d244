import TemplateLexer.Proofs.Search
import TemplateLexer.Reader

/-!
# Readers at a split of the text

A reader stands between the part of its text that it read and the rest.
`Reader.standing` is the reader at such a split.  Its mark can be anywhere, since no
step over the text looks at it.  Each operation has an equation here that says which
characters it moves from one part to the other.

Between two tokens the mark is a split too.  The text consists of what was *taken* by
earlier tokens, of the lexeme, and of the rest that is not read yet.  `Reader.holding`
is the reader there, and has the equations of `Reader.standing` in these terms.

Nothing faults at a split, with one proviso.  The offsets of the text have to fit a
machine word (`Text.Fits`), as those of every text in memory do.
-/

namespace TemplateLexer

/-- A text with offsets that fit a machine word. -/
def Text.Fits (t : Text) : Prop := t.size ≤ Offset.limit

instance (t : Text) : Decidable t.Fits := inferInstanceAs (Decidable (_ ≤ _))

/-- Offsets that spans hold fit a machine word. -/
theorem Text.fits_of_size_le {t : Text} (short : t.size ≤ Span.limit) : t.Fits :=
  Nat.le_trans short (by decide)

/-- A text splits after its longest run of valid characters. -/
theorem exists_split_of_valid (valid : Char → Bool) (t : Text) :
    ∃ run rest, t = run ++ rest ∧ (∀ c ∈ run, valid c = true) ∧
      ∀ c ∈ rest.head?, valid c = false := by
  induction t with
  | nil => exact ⟨[], [], rfl, by simp, by simp⟩
  | cons c t ih =>
      by_cases accepted : valid c = true
      · obtain ⟨run, rest, rfl, all, stop⟩ := ih
        exact ⟨c :: run, rest, rfl, by simpa [accepted] using all, stop⟩
      · exact ⟨[], c :: t, rfl, by simp, by simpa using accepted⟩

namespace Reader

open Text

theorem size_pos {t : Text} (nonempty : t ≠ []) : 0 < size t := by
  cases t with
  | nil => exact absurd rfl nonempty
  | cons c t => exact Nat.add_pos_left c.utf8Size_pos _

/-! ## Between what was read and the rest -/

/-- The reader between two parts of its text, with the given mark. -/
def standing (mark : Nat) (before rest : Text) (width? : Option Nat := none) : Reader where
  text := before ++ rest
  mark
  pos := size before
  width?

section Standing

variable {mark : Nat} {before rest : Text} {width? : Option Nat}

@[simp] theorem rest_standing : (standing mark before rest width?).rest = .ok rest := by
  simp only [Reader.rest, standing, dropBytes?_append]
  rfl

@[simp] theorem isAt_standing (pattern : Text) :
    (standing mark before rest width?).isAt pattern = .ok (pattern.isPrefixOf rest) := by
  simp only [isAt, rest_standing]
  rfl

theorem read_standing_nil :
    (standing mark before [] width?).read = .ok (none, standing mark before [] (some 0)) := by
  simp only [read, rest_standing]
  rfl

theorem read_standing_cons {c : Char} (fits : (before ++ c :: rest).Fits) :
    (standing mark before (c :: rest) width?).read =
      .ok (some c, standing mark (before ++ [c]) rest (some c.utf8Size)) := by
  have bound : size before + c.utf8Size ≤ Offset.limit := by
    simp only [Fits, size_append, size_cons] at fits
    omega
  simp only [read, rest_standing, bind, Except.bind, pure, Except.pure]
  simp only [standing, Offset.add_eq_ok bound]
  simp

/-- Undoing the read of a character gives it back to the rest. -/
theorem unread_standing (c : Char) :
    (standing mark (before ++ [c]) rest (some c.utf8Size)).unread =
      .ok (standing mark before (c :: rest)) := by
  have enough : c.utf8Size ≤ size (before ++ [c]) := by simp
  simp only [unread, standing, Offset.sub_eq_ok enough, bind, Except.bind, pure, Except.pure]
  simp

theorem unread_standing_zero :
    (standing mark before rest (some 0)).unread = .ok (standing mark before rest) := by
  simp only [unread, standing, Offset.sub_eq_ok (Nat.zero_le _), bind, Except.bind, pure,
    Except.pure, Nat.sub_zero]

/-- Looking at the next character forgets the width of the last read. -/
theorem peek_standing (fits : (before ++ rest).Fits) :
    (standing mark before rest width?).peek = .ok (rest.head?, standing mark before rest) := by
  cases rest with
  | nil => simp only [peek, read_standing_nil, unread_standing_zero, bind, Except.bind, pure,
      Except.pure, List.head?_nil]
  | cons c rest => simp only [peek, read_standing_cons fits, unread_standing, bind, Except.bind,
      pure, Except.pure, List.head?_cons]

theorem readIf_standing_nil (valid : Char → Bool) :
    (standing mark before [] width?).readIf valid = .ok (false, standing mark before []) := by
  simp only [readIf, read_standing_nil, unread_standing_zero, bind, Except.bind, pure, Except.pure,
    Option.any_none]
  rfl

theorem readIf_standing_of_valid {valid : Char → Bool} {c : Char} (accepted : valid c = true)
    (fits : (before ++ c :: rest).Fits) :
    (standing mark before (c :: rest) width?).readIf valid =
      .ok (true, standing mark (before ++ [c]) rest (some c.utf8Size)) := by
  simp only [readIf, read_standing_cons fits, bind, Except.bind, pure, Except.pure,
    Option.any_some, accepted, if_true]

theorem readIf_standing_of_invalid {valid : Char → Bool} {c : Char} (rejected : valid c = false)
    (fits : (before ++ c :: rest).Fits) :
    (standing mark before (c :: rest) width?).readIf valid =
      .ok (false, standing mark before (c :: rest)) := by
  simp only [readIf, read_standing_cons fits, bind, Except.bind, pure, Except.pure,
    Option.any_some, rejected, unread_standing]
  rfl

/-- A round that reads a valid character goes on behind it. -/
theorem readWhileWithin_of_valid {valid : Char → Bool} {c : Char} {bound : Nat}
    (accepted : valid c = true) (fits : (before ++ c :: rest).Fits) :
    readWhileWithin valid (bound + 1) (standing mark before (c :: rest) width?) =
      readWhileWithin valid bound (standing mark (before ++ [c]) rest (some c.utf8Size)) := by
  simp only [readWhileWithin, read_standing_cons fits, bind, Except.bind, Option.any_some,
    accepted, if_true]

/-- A round that reads no valid character undoes its read and is the last. -/
theorem readWhileWithin_of_stop {valid : Char → Bool} {bound : Nat}
    (stop : ∀ c ∈ rest.head?, valid c = false) (fits : (before ++ rest).Fits) :
    readWhileWithin valid (bound + 1) (standing mark before rest width?) =
      .ok (standing mark before rest) := by
  cases rest with
  | nil =>
      simp only [readWhileWithin, read_standing_nil, bind, Except.bind, Option.any_none,
        unread_standing_zero]
      rfl
  | cons c rest =>
      have rejected : valid c = false := stop c rfl
      simp only [readWhileWithin, read_standing_cons fits, bind, Except.bind, Option.any_some,
        rejected, unread_standing]
      rfl

/-- The loop takes one round for each character of the run, and one more to see that the run
is over. -/
theorem readWhileWithin_standing {valid : Char → Bool} {run : Text} (bound : Nat)
    (all : ∀ c ∈ run, valid c = true) (stop : ∀ c ∈ rest.head?, valid c = false)
    (fits : (before ++ (run ++ rest)).Fits) :
    readWhileWithin valid bound (standing mark before (run ++ rest) width?) =
      if run.length < bound then .ok (standing mark (before ++ run) rest)
      else .error .stalled := by
  -- each round takes the head off the run and hands the width of that read to the next one
  induction run generalizing before width? bound with
  | nil =>
      cases bound with
      | zero => rfl
      | succ bound =>
          rw [List.nil_append, readWhileWithin_of_stop stop fits, List.append_nil]
          exact (if_pos (Nat.succ_pos bound)).symm
  | cons c run ih =>
      cases bound with
      | zero => rfl
      | succ bound =>
          obtain ⟨accepted, all⟩ := List.forall_mem_cons.mp all
          rw [List.cons_append] at fits
          have inText : (before ++ [c] ++ (run ++ rest)).Fits := by simpa using fits
          rw [List.cons_append, readWhileWithin_of_valid accepted fits, ih bound all inText]
          simp

/-- The longest run of valid characters ends where the rest does not go on with one. -/
theorem readWhile_standing {valid : Char → Bool} {run : Text}
    (all : ∀ c ∈ run, valid c = true) (stop : ∀ c ∈ rest.head?, valid c = false)
    (fits : (before ++ (run ++ rest)).Fits) :
    (standing mark before (run ++ rest) width?).readWhile valid =
      .ok (standing mark (before ++ run) rest) := by
  have enough : run.length < (before ++ (run ++ rest)).length + 1 := by
    simp only [List.length_append]
    omega
  rw [readWhile]
  exact (readWhileWithin_standing _ all stop fits).trans (if_pos enough)

theorem skip_standing {step : Text} (fits : (before ++ (step ++ rest)).Fits) :
    (standing mark before (step ++ rest) width?).skip (size step) =
      .ok (standing mark (before ++ step) rest) := by
  have bound : size before + size step ≤ Offset.limit := by
    simp only [Fits, size_append] at fits
    omega
  have inside : min (size before + size step) (size (before ++ (step ++ rest))) =
      size (before ++ step) := by
    simp
  have boundary : isBoundary (before ++ (step ++ rest)) (size (before ++ step)) :=
    isBoundary_iff.mpr ⟨before ++ step, rest, by simp, rfl⟩
  simp only [skip, standing, Offset.add_eq_ok bound, bind, Except.bind, pure, Except.pure, inside,
    boundary, if_true]
  simp

theorem seek_standing_of_found {pattern skipped : Text}
    (found : offsetOf? pattern (skipped ++ rest) = some (size skipped))
    (fits : (before ++ (skipped ++ rest)).Fits) :
    (standing mark before (skipped ++ rest) width?).seek pattern =
      .ok (true, standing mark (before ++ skipped) rest) := by
  have bound : size before + size skipped ≤ Offset.limit := by
    simp only [Fits, size_append] at fits
    omega
  simp only [seek, rest_standing, bind, Except.bind, pure, Except.pure, found]
  simp only [standing, Offset.add_eq_ok bound]
  simp

theorem seek_standing_of_not_found {pattern : Text} (absent : offsetOf? pattern rest = none) :
    (standing mark before rest width?).seek pattern =
      .ok (false, standing mark (before ++ rest) []) := by
  simp only [seek, rest_standing, bind, Except.bind, pure, Except.pure, absent]
  simp [standing]

end Standing

/-! ## Between what was taken, the lexeme and the rest -/

/-- The reader with the given lexeme after what was taken, and the rest unread. -/
def holding (taken lexeme rest : Text) (width? : Option Nat := none) : Reader where
  text := taken ++ lexeme ++ rest
  mark := size taken
  pos := size (taken ++ lexeme)
  width?

variable {taken held rest : Text} {width? : Option Nat}

/-- The mark is where the lexeme begins. -/
theorem holding_append (step : Text) :
    holding taken (held ++ step) rest width? =
      standing (size taken) (taken ++ held ++ step) rest width? := by
  rw [List.append_assoc]
  rfl

/-- With an empty lexeme the mark is the place. -/
theorem holding_nil : holding taken [] rest width? = standing (size taken) taken rest width? := by
  simp [holding, standing]

/-! ## Views -/

theorem pos_holding_nil : (holding taken [] rest width?).pos = size taken := by
  simp [holding]

@[simp] theorem rest_holding : (holding taken held rest width?).rest = .ok rest := rest_standing

@[simp] theorem lexeme_holding : (holding taken held rest width?).lexeme = .ok held := by
  simp only [Reader.lexeme, holding, size_append, slice?_append]
  rfl

@[simp] theorem isAt_holding (pattern : Text) :
    (holding taken held rest width?).isAt pattern = .ok (pattern.isPrefixOf rest) :=
  isAt_standing pattern

@[simp] theorem hasLexeme_holding :
    (holding taken held rest width?).hasLexeme = decide (held ≠ []) := by
  by_cases empty : held = []
  · simp [hasLexeme, holding, empty]
  · simp [hasLexeme, holding, empty, size_pos empty]

/-- The last character read is the last of the lexeme. -/
theorem lastSpan_holding (c : Char) :
    (holding taken (held ++ [c]) rest (some c.utf8Size)).lastSpan =
      .ok (Span.between (size (taken ++ held)) (size (taken ++ held ++ [c]))) := by
  have start : size (taken ++ (held ++ [c])) - c.utf8Size = size (taken ++ held) := by
    simp; omega
  have enough : c.utf8Size ≤ size (taken ++ (held ++ [c])) := by
    simp; omega
  simp only [lastSpan, holding, Option.getD_some, Offset.sub_eq_ok enough, start]
  rw [List.append_assoc]
  rfl

/-- After a read at the end the last span is empty. -/
theorem lastSpan_holding_zero :
    (holding taken held rest (some 0)).lastSpan = .ok (Span.point (size (taken ++ held))) := by
  simp only [lastSpan, holding, Option.getD_some, Offset.sub_eq_ok (Nat.zero_le _)]
  rfl

/-! ## Single characters -/

theorem read_holding_nil :
    (holding taken held [] width?).read = .ok (none, holding taken held [] (some 0)) :=
  read_standing_nil

theorem read_holding_cons {c : Char} (fits : (taken ++ held ++ c :: rest).Fits) :
    (holding taken held (c :: rest) width?).read =
      .ok (some c, holding taken (held ++ [c]) rest (some c.utf8Size)) := by
  rw [holding_append]
  exact read_standing_cons fits

/-- Undoing the read of a character gives it back to the rest. -/
theorem unread_holding (c : Char) :
    (holding taken (held ++ [c]) rest (some c.utf8Size)).unread =
      .ok (holding taken held (c :: rest)) := by
  rw [holding_append]
  exact unread_standing c

theorem readIf_holding_of_valid {valid : Char → Bool} {c : Char} (accepted : valid c = true)
    (fits : (taken ++ held ++ c :: rest).Fits) :
    (holding taken held (c :: rest) width?).readIf valid =
      .ok (true, holding taken (held ++ [c]) rest (some c.utf8Size)) := by
  rw [holding_append]
  exact readIf_standing_of_valid accepted fits

theorem readIf_holding_of_invalid {valid : Char → Bool} {c : Char} (rejected : valid c = false)
    (fits : (taken ++ held ++ c :: rest).Fits) :
    (holding taken held (c :: rest) width?).readIf valid =
      .ok (false, holding taken held (c :: rest)) :=
  readIf_standing_of_invalid rejected fits

/-! ## Longer steps -/

/-- The longest run of valid characters ends where the rest does not go on with one. -/
theorem readWhile_holding {valid : Char → Bool} {run : Text}
    (all : ∀ c ∈ run, valid c = true) (stop : ∀ c ∈ rest.head?, valid c = false)
    (fits : (taken ++ held ++ (run ++ rest)).Fits) :
    (holding taken held (run ++ rest) width?).readWhile valid =
      .ok (holding taken (held ++ run) rest) := by
  rw [holding_append]
  exact readWhile_standing all stop fits

theorem skip_holding {step : Text} (fits : (taken ++ held ++ (step ++ rest)).Fits) :
    (holding taken held (step ++ rest) width?).skip (size step) =
      .ok (holding taken (held ++ step) rest) := by
  rw [holding_append]
  exact skip_standing fits

theorem seek_holding_of_found {pattern skipped : Text}
    (found : offsetOf? pattern (skipped ++ rest) = some (size skipped))
    (fits : (taken ++ held ++ (skipped ++ rest)).Fits) :
    (holding taken held (skipped ++ rest) width?).seek pattern =
      .ok (true, holding taken (held ++ skipped) rest) := by
  rw [holding_append]
  exact seek_standing_of_found found fits

theorem seek_holding_of_not_found {pattern : Text} (absent : offsetOf? pattern rest = none) :
    (holding taken held rest width?).seek pattern =
      .ok (false, holding taken (held ++ rest) []) := by
  rw [holding_append]
  exact seek_standing_of_not_found absent

/-! ## The lexeme -/

@[simp] theorem dropLexeme_holding :
    (holding taken held rest width?).dropLexeme = holding (taken ++ held) [] rest width? := by
  simp [dropLexeme, holding]

@[simp] theorem takeLexeme_holding :
    (holding taken held rest width?).takeLexeme =
      .ok ((Span.between (size taken) (size (taken ++ held)), held),
        holding (taken ++ held) [] rest width?) := by
  simp only [takeLexeme, lexeme_holding, bind, Except.bind, pure, Except.pure, dropLexeme_holding]
  rfl

end Reader

end TemplateLexer
