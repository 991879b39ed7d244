import Mathlib.Order.Bounds.Basic
import TemplateLexer.Proofs.Malformed
import TemplateLexer.Text.Check

/-!
# What a check finds

A check of bytes finds all the text in front of the first malformed sequence (`Checks`).  The
proof follows the machine, which is at the start of a character or holds a part of one
(`checks_checkFrom`).

What is documented of such checks is `IsCheck`.  It says which bytes pass, how far the others
are text, and what the length of an error is.  It does not say how a check goes about it, and
it leaves no choice (`IsCheck.eq_check`).  So what is proved about the check of this library
holds of any other one.
-/

namespace TemplateLexer.Text

/-! ## What is documented -/

/-- What is documented of a check. -/
structure IsCheck (check : Bytes → Except Utf8Error Text) : Prop where
  /-- The bytes of a text pass, and no others do. -/
  ok_iff : ∀ {bs t}, check bs = .ok t ↔ bs = encode t
  /-- An error is where the longest text in front ends. -/
  isGreatest : ∀ {bs e}, check bs = .error e →
    IsGreatest {n | ∃ t : Text, encode t <+: bs ∧ size t = n} e.validUpTo
  /-- It has no length if the bytes end inside a character, and else it has one. -/
  none_iff : ∀ {bs e}, check bs = .error e →
    (e.errorLength? = none ↔ IsCutShort (bs.drop e.validUpTo))
  /-- The length is that of the malformed sequence that starts there. -/
  isMalformed : ∀ {bs e n}, check bs = .error e → e.errorLength? = some n →
    ∃ bad after, bs.drop e.validUpTo = bad ++ after ∧ bad.length = n ∧ IsMalformed bad after

/-- There is one such check. -/
theorem IsCheck.unique {check check' : Bytes → Except Utf8Error Text} (first : IsCheck check)
    (second : IsCheck check') : check = check' := by
  funext bs
  cases found : check bs with
  | ok t => exact (second.ok_iff.mpr (first.ok_iff.mp found)).symm
  | error e =>
      cases found' : check' bs with
      | ok t =>
          rw [first.ok_iff.mpr (second.ok_iff.mp found')] at found
          cases found
      | error e' =>
          obtain ⟨n, length?⟩ := e
          obtain ⟨n', length?'⟩ := e'
          obtain rfl : n = n' := (first.isGreatest found).unique (second.isGreatest found')
          have both : length?' = none ↔ length? = none :=
            (second.none_iff found').trans (first.none_iff found).symm
          cases length? with
          | none => rw [both.mpr rfl]
          | some k =>
              cases length?' with
              | none => cases both.mp rfl
              | some k' =>
                  obtain ⟨bad, after, split, rfl, malformed⟩ := first.isMalformed found rfl
                  obtain ⟨bad', after', split', rfl, malformed'⟩ := second.isMalformed found' rfl
                  rw [(malformed.unique malformed' (split.symm.trans split')).1]

/-! ## What the check finds -/

/-- What a check finds in bytes.  Between an end inside a character and a malformed sequence
in front of other bytes there is this difference, that more bytes could complete the first. -/
inductive Checks : Bytes → Except Utf8Error Text → Prop where
  | passed (t : Text) : Checks (encode t) (.ok t)
  | ended (t : Text) {bad : Bytes} (short : IsCutShort bad) :
      Checks (encode t ++ bad) (.error ⟨size t, none⟩)
  | malformed (t : Text) {bad after : Bytes} (malformed : IsMalformed bad after)
      (decided : ¬ IsCutShort (bad ++ after)) :
      Checks (encode t ++ (bad ++ after)) (.error ⟨size t, some bad.length⟩)

theorem Checks.behind {bs : Bytes} {outcome : Except Utf8Error Text} (c : Char)
    (checks : Checks bs outcome) :
    Checks (String.utf8EncodeChar c ++ bs) (outcomeBehind c outcome) := by
  cases checks with
  | passed t => exact .passed (c :: t)
  | ended t short =>
      rw [← List.append_assoc]
      exact .ended (c :: t) short
  | malformed t malformed decided =>
      rw [← List.append_assoc]
      exact .malformed (c :: t) malformed decided

/-- A byte at the start of a character is checked as it should be, if what follows it is. -/
theorem checks_startWith {b : UInt8} {bs : Bytes} (outside : Checks bs (checkFrom none bs))
    (inside : ∀ p read, p.Holds read → Checks (read ++ bs) (checkFrom (some p) bs)) :
    Checks (b :: bs) (checkFrom none (b :: bs)) := by
  have starts := starts_startWith b
  rw [checkFrom]
  generalize startWith b = step at starts
  cases starts with
  | @char c encoded =>
      have checks := outside.behind c
      rwa [encoded] at checks
  | holds holds => exact inside _ _ holds
  | malformed malformed decided => exact .malformed [] (malformed bs) (decided bs)

/-- The check finds what it should, also from inside a character. -/
theorem checks_checkFrom (bs : Bytes) :
    Checks bs (checkFrom none bs) ∧
      ∀ p read, p.Holds read → Checks (read ++ bs) (checkFrom (some p) bs) := by
  induction bs with
  | nil =>
      refine ⟨.passed [], fun p read holds => ?_⟩
      rw [List.append_nil]
      exact .ended [] holds.isCutShort
  | cons b bs ih =>
      obtain ⟨outside, inside⟩ := ih
      refine ⟨checks_startWith outside inside, fun p read holds => ?_⟩
      have continues := continues_continueWith holds b
      rw [checkFrom]
      generalize p.continueWith b = step at continues
      cases continues with
      | @char c encoded =>
          have checks := outside.behind c
          rwa [encoded, List.append_assoc] at checks
      | holds holds =>
          have checks := inside _ _ holds
          rwa [List.append_assoc] at checks
      | malformed malformed decided => exact .malformed [] (malformed bs) (decided bs)

theorem checks_check (bs : Bytes) : Checks bs (check bs) := (checks_checkFrom bs).1

/-! ## The check is as documented -/

/-- Bytes that end inside a character are malformed there. -/
theorem IsCutShort.isMalformed {bad : Bytes} (short : IsCutShort bad) : IsMalformed bad [] where
  noChar c := by
    rw [List.append_nil]
    exact short.not_prefix c
  longest := by
    rw [List.append_nil]
    exact .inl ⟨short, fun _ begins _ => begins.length_le⟩

/-- Where a check fails is a malformed sequence.  Its length is told or it is all that is
left. -/
theorem Checks.exists_isMalformed {bs : Bytes} {e : Utf8Error} (checks : Checks bs (.error e)) :
    ∃ t bad after, bs = encode t ++ (bad ++ after) ∧ IsMalformed bad after ∧
      e.validUpTo = size t ∧ e.errorLength?.getD (bad ++ after).length = bad.length := by
  cases checks with
  | @ended t bad short =>
      refine ⟨t, bad, [], by rw [List.append_nil], short.isMalformed, rfl, ?_⟩
      rw [List.append_nil]
      rfl
  | malformed t malformed => exact ⟨t, _, _, rfl, malformed, rfl, rfl⟩

theorem drop_size_encode (t : Text) (bs : Bytes) : (encode t ++ bs).drop (size t) = bs :=
  List.drop_left' (length_encode t)

theorem take_size_encode (t : Text) (bs : Bytes) : (encode t ++ bs).take (size t) = encode t :=
  List.take_left' (length_encode t)

/-- A text ends where no character follows. -/
theorem isGreatest_size {t : Text} {bs : Bytes} (noChar : ∀ c, ¬ String.utf8EncodeChar c <+: bs) :
    IsGreatest {n | ∃ u : Text, encode u <+: encode t ++ bs ∧ size u = n} (size t) := by
  refine ⟨⟨t, List.prefix_append _ _, rfl⟩, ?_⟩
  rintro _ ⟨u, begins, rfl⟩
  induction t generalizing u with
  | nil =>
      cases u with
      | nil => exact Nat.le_refl _
      | cons c u => exact absurd ((List.prefix_append _ _).trans begins) (noChar c)
  | cons d t ih =>
      cases u with
      | nil => exact Nat.zero_le _
      | cons c u =>
          obtain ⟨more, same⟩ := begins
          rw [encode_cons, encode_cons, List.append_assoc, List.append_assoc] at same
          obtain ⟨rfl, tails⟩ := utf8EncodeChar_append_inj same
          rw [size_cons, size_cons]
          exact Nat.add_le_add_left (ih u ⟨more, tails⟩) _

/-- No text goes on with a malformed sequence. -/
theorem encode_ne_of_isMalformed {t u : Text} {bad after : Bytes}
    (malformed : IsMalformed bad after) : encode t ++ (bad ++ after) ≠ encode u := by
  intro same
  have limit := (isGreatest_size (t := t) malformed.noChar).2 ⟨u, same ▸ List.prefix_refl _, rfl⟩
  have total := congrArg List.length same
  have nonempty := List.length_pos_iff.mpr malformed.ne_nil
  rw [List.length_append, List.length_append, length_encode, length_encode] at total
  omega

theorem check_isCheck : IsCheck check where
  ok_iff {bs t} := by
    have checks := checks_check bs
    constructor
    · intro passed
      rw [passed] at checks
      cases checks
      rfl
    · rintro rfl
      generalize encoded : encode t = bs at checks ⊢
      generalize outcome : check bs = found at checks
      cases found with
      | ok u =>
          cases checks
          rw [← decode_encode t, encoded, decode_encode]
      | error e =>
          obtain ⟨u, bad, after, rfl, malformed, -⟩ := checks.exists_isMalformed
          exact absurd encoded.symm (encode_ne_of_isMalformed malformed)
  isGreatest {bs e} failed := by
    have checks := checks_check bs
    rw [failed] at checks
    obtain ⟨t, bad, after, rfl, malformed, place, -⟩ := checks.exists_isMalformed
    rw [place]
    exact isGreatest_size malformed.noChar
  none_iff {bs e} failed := by
    have checks := checks_check bs
    rw [failed] at checks
    cases checks with
    | ended t short =>
        rw [drop_size_encode]
        exact iff_of_true rfl short
    | malformed t malformed decided =>
        rw [drop_size_encode]
        exact iff_of_false nofun decided
  isMalformed {bs e n} failed length := by
    have checks := checks_check bs
    rw [failed] at checks
    cases checks with
    | ended => cases length
    | malformed t malformed =>
        cases length
        exact ⟨_, _, drop_size_encode t _, rfl, malformed⟩

/-- Any check that is as documented finds what this one does. -/
theorem IsCheck.eq_check {other : Bytes → Except Utf8Error Text} (isCheck : IsCheck other) :
    other = check :=
  isCheck.unique check_isCheck

end TemplateLexer.Text
