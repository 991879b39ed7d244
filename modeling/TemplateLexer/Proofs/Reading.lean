import TemplateLexer.Proofs.Reader

/-!
# Reading a run

A reader reads valid characters until it comes by one that is not.  It learns that the run is
over from a read too many, and undoes that read by the width of the last character.  At the end
of the text this width is zero, and otherwise it is that of the character which was refused.

What is read should be the longest run of valid characters that the rest begins with.
`Text.IsLongestRun` says this of a text, without reading.  The run can also be read in the plain
way, with a call of `Reader.readIf` for each character, until one refuses.
`Reader.readIfsWithin` is that loop.

* `readWhileWithin_eq_readIfsWithin`: the loops agree on every reader, with the same bound, and
  where they fault.
* `readWhile_isLongest`: from a boundary, both read the longest run, in one round more than it
  has characters.
-/

namespace TemplateLexer

/-! ## The longest run -/

namespace Text

/-- The longest first part of a text that has valid characters only. -/
structure IsLongestRun (valid : Char → Bool) (run t : Text) : Prop where
  starts : run <+: t
  all : ∀ c ∈ run, valid c = true
  longest : ∀ u, u <+: t → (∀ c ∈ u, valid c = true) → u <+: run

variable {valid : Char → Bool} {run rest : Text}

/-- A run is the longest one if the rest does not go on with a valid character. -/
theorem isLongestRun_of_stop (all : ∀ c ∈ run, valid c = true)
    (stop : ∀ c ∈ rest.head?, valid c = false) : IsLongestRun valid run (run ++ rest) where
  starts := List.prefix_append run rest
  all
  longest u starts allValid := by
    rcases List.prefix_or_prefix_of_prefix starts (List.prefix_append run rest) with
      shorter | ⟨more, rfl⟩
    · exact shorter
    · cases more with
      | nil => simp
      | cons c more =>
          obtain ⟨after, rfl⟩ := (List.prefix_append_right_inj run).mp starts
          have accepted : valid c = true := allValid c (by simp)
          have rejected : valid c = false := stop c rfl
          rw [accepted] at rejected
          cases rejected

/-- There is one longest run. -/
theorem IsLongestRun.unique {run' t : Text} (longest : IsLongestRun valid run t)
    (longest' : IsLongestRun valid run' t) : run = run' := by
  have shorter : run <+: run' := longest'.longest run longest.starts longest.all
  have longer : run' <+: run := longest.longest run' longest'.starts longest'.all
  exact shorter.eq_of_length_le longer.length_le

end Text

/-! ## One call for each character -/

namespace Reader

open Text

/-- Reads valid characters with one call each, until a call refuses, with at most the given
number of calls. -/
def readIfsWithin (valid : Char → Bool) : Nat → Reader → Except Fault Reader
  | 0, _ => .error .stalled
  | bound + 1, r => do
      let (accepted, r) ← r.readIf valid
      if accepted then readIfsWithin valid bound r else return r

/-- Undoing the read too many is what the call that refuses does. -/
theorem readWhileWithin_eq_readIfsWithin (valid : Char → Bool) (bound : Nat) (r : Reader) :
    readWhileWithin valid bound r = readIfsWithin valid bound r := by
  induction bound generalizing r with
  | zero => rfl
  | succ bound ih =>
      simp only [readWhileWithin, readIfsWithin, readIf, bind, Except.bind, pure, Except.pure]
      cases r.read with
      | error fault => rfl
      | ok found =>
          obtain ⟨c, r'⟩ := found
          cases accepted : c.any valid with
          | true => simp only [accepted, if_true, ih]
          | false =>
              simp only [accepted, Bool.false_eq_true, if_false]
              cases r'.unread with
              | error fault => rfl
              | ok r'' => rfl

/-! ## What is read -/

/-- From a boundary, a reader reads the longest run of valid characters.  Its mark stays, and it
has no read to undo.  The loop takes one round more than the run has characters.  So does the
loop with one call for each character, and it ends with the same reader.  That reader stays as it
is when it reads a run again, and when it looks at the next character. -/
theorem readWhile_isLongest {r : Reader} (fits : r.text.Fits)
    (boundary : r.text.isBoundary r.pos = true) (valid : Char → Bool) :
    ∃ run after stopped, r.rest = .ok (run ++ after) ∧
      IsLongestRun valid run (run ++ after) ∧
      stopped = { r with pos := r.pos + size run, width? := none } ∧
      stopped.rest = .ok after ∧
      r.readWhile valid = .ok stopped ∧
      (∀ bound, readWhileWithin valid bound r =
        if run.length < bound then .ok stopped else .error .stalled) ∧
      (∀ bound, readIfsWithin valid bound r =
        if run.length < bound then .ok stopped else .error .stalled) ∧
      stopped.readWhile valid = .ok stopped ∧
      stopped.peek = .ok (after.head?, stopped) := by
  obtain ⟨text, mark, pos, width?⟩ := r
  obtain ⟨before, rest, rfl, rfl⟩ := isBoundary_iff.mp boundary
  obtain ⟨run, after, rfl, all, stop⟩ := exists_split_of_valid valid rest
  have behind : (before ++ run ++ after).Fits := by
    rw [List.append_assoc]
    exact fits
  have rounds : ∀ bound, readWhileWithin valid bound (standing mark before (run ++ after) width?) =
      if run.length < bound then .ok (standing mark (before ++ run) after)
      else .error .stalled :=
    fun bound => readWhileWithin_standing bound all stop fits
  have again : (standing mark (before ++ run) after).readWhile valid =
      .ok (standing mark (before ++ run) after) :=
    readWhileWithin_of_stop stop behind
  refine ⟨run, after, standing mark (before ++ run) after, rest_standing,
    isLongestRun_of_stop all stop, ?_, rest_standing, readWhile_standing all stop fits, rounds, ?_,
    again, peek_standing behind⟩
  · rw [standing, List.append_assoc, size_append]
  · intro bound
    rw [← readWhileWithin_eq_readIfsWithin]
    exact rounds bound

/-- A run of characters of all widths is read up to the end of the text, although the mark is
ahead of the place. -/
theorem readWhile_isLongest_of_wide :
    ∃ r stopped : Reader, r = ⟨['x', 'a', 'é', '世', '😀'], 2, 1, some 1⟩ ∧
      stopped = { r with pos := 11, width? := none } ∧
      r.readWhile (· ≠ 'x') = .ok stopped ∧
      readIfsWithin (· ≠ 'x') 5 r = .ok stopped ∧
      readIfsWithin (· ≠ 'x') 4 r = .error .stalled ∧
      stopped.peek = .ok (none, stopped) := by
  obtain ⟨run, after, stopped, there, longest, rfl, -, reads, -, calls, -, peeks⟩ :=
    readWhile_isLongest (r := ⟨['x', 'a', 'é', '世', '😀'], 2, 1, some 1⟩) (by decide) (by decide)
      (· ≠ 'x')
  have split : ['a', 'é', '世', '😀'] ++ [] = run ++ after := Except.ok.inj there
  rw [← split] at longest
  have same := longest.unique (isLongestRun_of_stop (by simp) (by simp))
  subst same
  rw [List.append_cancel_left_eq] at split
  subst split
  exact ⟨_, _, rfl, rfl, reads, calls 5, calls 4, peeks⟩

end Reader

end TemplateLexer
