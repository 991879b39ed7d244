import Mathlib.Order.Interval.Set.Defs
import TemplateLexer.Proofs.Reader

/-!
# Seeking a pattern

A reader seeks a pattern in the bytes of its rest.  The same can be done in the plain way,
without bytes.  One looks whether the rest begins with the pattern, reads a character if it
does not, and looks again.  `Reader.findWithin` is that loop.

`Reader.seek_eq_find` says that both lead to the same place.  The bytes of a pattern stand
only where the pattern does.  So the search does not stop inside a character, and the place
where it stops is the first that the loop comes by.  What they leave behind differs in one
thing.  The loop can undo its last read, and a seek has no read to undo.
-/

namespace TemplateLexer

/-! ## Occurrences in the rest -/

namespace Bytes

variable {pattern bs : Bytes} {n : Nat}

/-- A pattern stands behind a first part as it stands in the rest. -/
theorem add_mem_occurrences_append {front : Bytes} :
    front.length + n ∈ occurrences pattern (front ++ bs) ↔ n ∈ occurrences pattern bs := by
  constructor
  · rintro ⟨before, after, same, length⟩
    obtain ⟨inner, rfl⟩ : front <+: before := by
      rw [List.append_assoc] at same
      exact List.prefix_of_prefix_length_le ⟨bs, rfl⟩ ⟨_, same.symm⟩ (by omega)
    rw [List.append_assoc, List.append_assoc, List.append_cancel_left_eq, ← List.append_assoc]
      at same
    rw [List.length_append] at length
    exact ⟨inner, after, same, by omega⟩
  · rintro ⟨before, after, rfl, rfl⟩
    exact ⟨front ++ before, after, by simp, List.length_append⟩

/-- The leftmost occurrence in the rest is the leftmost one from there on. -/
theorem isLeast_inter_Ici (front : Bytes) (least : IsLeast (occurrences pattern bs) n) :
    IsLeast (occurrences pattern (front ++ bs) ∩ Set.Ici front.length) (front.length + n) := by
  refine ⟨⟨add_mem_occurrences_append.mpr least.1, Nat.le_add_right _ _⟩, ?_⟩
  rintro m ⟨there, from'⟩
  obtain ⟨k, rfl⟩ := Nat.exists_eq_add_of_le from'
  exact Nat.add_le_add_left (least.2 (add_mem_occurrences_append.mp there)) _

/-- With no occurrence in the rest there is none from there on. -/
theorem inter_Ici_eq_empty (front : Bytes) (absent : ¬ pattern <:+: bs) :
    occurrences pattern (front ++ bs) ∩ Set.Ici front.length = ∅ := by
  rw [Set.eq_empty_iff_forall_notMem]
  rintro m ⟨there, from'⟩
  obtain ⟨k, rfl⟩ := Nat.exists_eq_add_of_le from'
  obtain ⟨before, after, split, -⟩ := add_mem_occurrences_append.mp there
  exact absent ⟨before, after, split.symm⟩

end Bytes

/-- An occurrence that is leftmost and behind the first character is not at that character,
and it is leftmost in the text without it. -/
theorem Text.isLeast_of_isLeast_cons {pattern t : Text} {c : Char} {n : Nat}
    (least : IsLeast (occurrences pattern (c :: t)) (c.utf8Size + n)) :
    ¬ pattern <+: c :: t ∧ IsLeast (occurrences pattern t) n := by
  obtain ⟨⟨before, after, split, sized⟩, lower⟩ := least
  have wide := c.utf8Size_pos
  refine ⟨?_, ?_, ?_⟩
  · rintro ⟨after, starts⟩
    have first : c.utf8Size + n ≤ 0 := lower ⟨[], after, starts.symm, rfl⟩
    omega
  · cases before with
    | nil =>
        have first : 0 = c.utf8Size + n := sized
        omega
    | cons d before =>
        obtain ⟨rfl, rfl⟩ := List.cons.inj split
        exact ⟨before, after, rfl, Nat.add_left_cancel sized⟩
  · rintro m ⟨before, after, rfl, rfl⟩
    exact Nat.le_of_add_le_add_left (lower ⟨c :: before, after, rfl, rfl⟩)

/-! ## Character by character -/

namespace Reader

open Text

/-- Looks for `pattern` character by character, with at most the given number of rounds.
Returns whether it is found. -/
def findWithin (pattern : Text) : Nat → Reader → Except Fault (Bool × Reader)
  | 0, _ => .error .stalled
  | bound + 1, r => do
      if ← r.isAt pattern then return (true, r)
      match ← r.read with
      | (none, r) => return (false, r)
      | (some _, r) => findWithin pattern bound r

section Standing

variable {pattern before rest : Text} {mark bound : Nat} {width? : Option Nat}

theorem findWithin_of_prefix (starts : pattern <+: rest) :
    findWithin pattern (bound + 1) (standing mark before rest width?) =
      .ok (true, standing mark before rest width?) := by
  simp only [findWithin, isAt_standing, List.isPrefixOf_iff_prefix.mpr starts, bind, Except.bind,
    pure, Except.pure, if_true]

theorem findWithin_of_nil (later : ¬ pattern <+: []) :
    findWithin pattern (bound + 1) (standing mark before [] width?) =
      .ok (false, standing mark before [] (some 0)) := by
  rw [← List.isPrefixOf_iff_prefix, Bool.not_eq_true] at later
  simp only [findWithin, isAt_standing, later, read_standing_nil, bind, Except.bind, pure,
    Except.pure, Bool.false_eq_true, if_false]

/-- A round that does not find the pattern takes a character off the rest. -/
theorem findWithin_of_cons {c : Char} (later : ¬ pattern <+: c :: rest)
    (fits : (before ++ c :: rest).Fits) :
    findWithin pattern (bound + 1) (standing mark before (c :: rest) width?) =
      findWithin pattern bound (standing mark (before ++ [c]) rest (some c.utf8Size)) := by
  rw [← List.isPrefixOf_iff_prefix, Bool.not_eq_true] at later
  simp only [findWithin, isAt_standing, later, read_standing_cons fits, bind, Except.bind,
    Bool.false_eq_true, if_false]

/-- The loop stops at the leftmost occurrence. -/
theorem findWithin_of_isLeast {skipped : Text}
    (least : IsLeast (occurrences pattern (skipped ++ rest)) (size skipped))
    (enough : skipped.length ≤ bound) (fits : (before ++ (skipped ++ rest)).Fits) :
    ∃ last?, findWithin pattern (bound + 1) (standing mark before (skipped ++ rest) width?) =
      .ok (true, standing mark (before ++ skipped) rest last?) := by
  induction skipped generalizing before width? bound with
  | nil =>
      obtain ⟨⟨front, after, split, sized⟩, -⟩ := least
      have atStart : front = [] := by
        by_contra nonempty
        exact Nat.ne_of_gt (size_pos nonempty) sized
      rw [atStart, List.nil_append] at split
      rw [List.append_nil]
      exact ⟨width?, findWithin_of_prefix ⟨after, split.symm⟩⟩
  | cons c skipped ih =>
      rw [List.cons_append] at least fits ⊢
      obtain ⟨later, least⟩ := isLeast_of_isLeast_cons least
      obtain ⟨bound, rfl⟩ := Nat.exists_eq_add_one.mpr (Nat.zero_lt_of_lt enough)
      have inText : (before ++ [c] ++ (skipped ++ rest)).Fits := by simpa using fits
      obtain ⟨last?, found⟩ := ih least (Nat.le_of_succ_le_succ enough) inText
      refine ⟨last?, ?_⟩
      rw [findWithin_of_cons later fits, found, List.append_assoc, List.singleton_append]

/-- Without an occurrence the loop reads to the end. -/
theorem findWithin_of_not_infix (absent : ¬ pattern <:+: rest) (enough : rest.length ≤ bound)
    (fits : (before ++ rest).Fits) :
    findWithin pattern (bound + 1) (standing mark before rest width?) =
      .ok (false, standing mark (before ++ rest) [] (some 0)) := by
  induction rest generalizing before width? bound with
  | nil =>
      rw [List.append_nil]
      exact findWithin_of_nil fun starts => absent starts.isInfix
  | cons c rest ih =>
      rw [List.infix_cons_iff, not_or] at absent
      obtain ⟨bound, rfl⟩ := Nat.exists_eq_add_one.mpr (Nat.zero_lt_of_lt enough)
      have inText : (before ++ [c] ++ rest).Fits := by simpa using fits
      rw [findWithin_of_cons absent.1 fits, ih absent.2 (Nat.le_of_succ_le_succ enough) inText,
        List.append_assoc, List.singleton_append]

/-- The seek and the loop split the rest at the same place. -/
theorem exists_find (mark : Nat) (width? : Option Nat) (fits : (before ++ rest).Fits)
    (pattern : Text) :
    ∃ found skipped after, rest = skipped ++ after ∧
      (standing mark before rest width?).seek pattern =
        .ok (found, standing mark (before ++ skipped) after) ∧
      (∀ bound, rest.length < bound → ∃ last?,
        findWithin pattern bound (standing mark before rest width?) =
          .ok (found, standing mark (before ++ skipped) after last?)) ∧
      (found = true → IsLeast (Bytes.occurrences pattern.encode rest.encode) (size skipped)) ∧
      (found = false → after = [] ∧ ¬ pattern.encode <:+: rest.encode) := by
  cases search : offsetOf? pattern rest with
  | some n =>
      have least := isLeast_of_offsetOf? search
      have leastBytes := Bytes.isLeast_of_offsetOf? search
      obtain ⟨skipped, after, rfl, rfl⟩ := least.1
      rw [List.append_assoc] at fits search least leastBytes ⊢
      refine ⟨true, skipped, pattern ++ after, rfl, seek_standing_of_found search fits, ?_,
        fun _ => leastBytes, nofun⟩
      intro bound enough
      obtain ⟨bound, rfl⟩ := Nat.exists_eq_add_one.mpr (Nat.zero_lt_of_lt enough)
      refine findWithin_of_isLeast least (Nat.le_trans ?_ (Nat.le_of_lt_succ enough)) fits
      rw [List.length_append]
      exact Nat.le_add_right _ _
  | none =>
      refine ⟨false, rest, [], (List.append_nil rest).symm, seek_standing_of_not_found search, ?_,
        nofun, fun _ => ⟨rfl, Bytes.offsetOf?_eq_none_iff.mp search⟩⟩
      intro bound enough
      obtain ⟨bound, rfl⟩ := Nat.exists_eq_add_one.mpr (Nat.zero_lt_of_lt enough)
      exact ⟨some 0, findWithin_of_not_infix (offsetOf?_eq_none_iff.mp search)
        (Nat.le_of_lt_succ enough) fits⟩

end Standing

/-! ## Both ways -/

/-- From a boundary, a seek stops where the loop does, with the same answer, and leaves no read
to undo.  It stops at a boundary.  This is the leftmost place from there on where the bytes of
the pattern stand in those of the text, or the end if there is none. -/
theorem seek_eq_find {r : Reader} (fits : r.text.Fits) (boundary : r.text.isBoundary r.pos = true)
    (pattern : Text) :
    ∃ found stop,
      r.seek pattern = .ok (found, { r with pos := stop, width? := none }) ∧
      (∀ bound, r.text.length < bound → ∃ last?,
        findWithin pattern bound r = .ok (found, { r with pos := stop, width? := last? })) ∧
      r.text.isBoundary stop = true ∧
      (found = true →
        IsLeast (Bytes.occurrences pattern.encode r.text.encode ∩ Set.Ici r.pos) stop) ∧
      (found = false → stop = r.text.size ∧
        Bytes.occurrences pattern.encode r.text.encode ∩ Set.Ici r.pos = ∅) := by
  obtain ⟨text, mark, pos, width?⟩ := r
  obtain ⟨before, rest, rfl, rfl⟩ := isBoundary_iff.mp boundary
  obtain ⟨found, skipped, after, rfl, seeks, finds, least, absent⟩ :=
    exists_find mark width? fits pattern
  have stop_eq (width? : Option Nat) : standing mark (before ++ skipped) after width? =
      ⟨before ++ (skipped ++ after), mark, size (before ++ skipped), width?⟩ := by
    rw [standing, List.append_assoc]
  simp only [stop_eq] at seeks finds
  refine ⟨found, size (before ++ skipped), seeks, ?_, ?_, ?_, ?_⟩
  · intro bound enough
    exact finds bound (Nat.lt_of_le_of_lt (by simp) enough)
  · exact isBoundary_iff.mpr ⟨before ++ skipped, after, (List.append_assoc _ _ _).symm, rfl⟩
  · intro here
    have fromHere := Bytes.isLeast_inter_Ici before.encode (least here)
    simpa only [length_encode, ← size_append, ← encode_append] using fromHere
  · intro nowhere
    obtain ⟨rfl, absent⟩ := absent nowhere
    have fromHere := Bytes.inter_Ici_eq_empty before.encode absent
    simp only [length_encode, ← encode_append] at fromHere
    exact ⟨by simp, fromHere⟩

/-- A reader whose mark is ahead of its place seeks a character of three bytes.  It steps over
one of two bytes, and so does the loop. -/
theorem seek_eq_find_of_wide :
    ∃ r : Reader, r = ⟨['a', 'é', '世', 'x'], 3, 1, some 1⟩ ∧
      r.seek ['世'] = .ok (true, { r with pos := 3, width? := none }) ∧
      ∀ bound, 4 < bound → ∃ last?,
        findWithin ['世'] bound r = .ok (true, { r with pos := 3, width? := last? }) := by
  refine ⟨_, rfl, rfl, ?_⟩
  obtain ⟨found, stop, seeks, finds, -⟩ :=
    seek_eq_find (r := ⟨['a', 'é', '世', 'x'], 3, 1, some 1⟩) (by decide) (by decide) ['世']
  cases seeks
  exact finds

end Reader

end TemplateLexer
