import TemplateLexer.Proofs.Reader

/-!
# Readers in any hands

The lexer uses a reader with care.  Here a reader is used without any.  Its operations
come in any order and with any arguments, copies of it are saved and gone back to, and
an operation that faults is as if it had not been asked for.

The lexeme is then not always in order.  A read, a drop and an unread leave the mark one
character ahead of the place.  So the invariant has two cases.  The mark is not after
the place, or it is one character ahead and there is no read to undo.  The second case
cannot grow worse, since the next step over the text passes the mark.

* `Stands.perform`: an operation keeps the invariant or faults, and it faults in the
  cases of `refusal?` alone.
* `actAll_isSound`: so it is after any actions.
-/

namespace TemplateLexer.Reader

open Text

/-! ## Operations -/

/-- Something that a reader can be asked. -/
inductive Operation where
  | read
  | unread
  | peek
  | readIf (valid : Char → Bool)
  | readWhile (valid : Char → Bool)
  | isAt (pattern : Text)
  | skip (length : Nat)
  | seek (pattern : Text)
  | dropLexeme
  | takeLexeme
  | rest
  | lexeme
  | lastSpan

/-- The reader after an operation. -/
def perform (r : Reader) : Operation → Except Fault Reader
  | .read => r.read.map (·.2)
  | .unread => r.unread
  | .peek => r.peek.map (·.2)
  | .readIf valid => (r.readIf valid).map (·.2)
  | .readWhile valid => r.readWhile valid
  | .isAt pattern => (r.isAt pattern).map fun _ => r
  | .skip length => r.skip length
  | .seek pattern => (r.seek pattern).map (·.2)
  | .dropLexeme => .ok r.dropLexeme
  | .takeLexeme => r.takeLexeme.map (·.2)
  | .rest => r.rest.map fun _ => r
  | .lexeme => r.lexeme.map fun _ => r
  | .lastSpan => r.lastSpan.map fun _ => r

/-- The fault of an operation, if it has one. -/
def refusal? (r : Reader) : Operation → Option Fault
  | .unread => if r.width? = none then some (.unreadWithoutRead r.pos) else none
  | .skip length =>
      if Offset.limit < r.pos + length then some .addOverflow
      else if r.text.isBoundary (min (r.pos + length) r.text.size) then none
      else some (.splitsCharacter length r.pos)
  | .takeLexeme | .lexeme => if r.pos < r.mark then some .badSlice else none
  | .read | .peek | .readIf _ | .readWhile _ | .isAt _ | .seek _ | .dropLexeme | .rest
  | .lastSpan => none

/-- A reader in use, with the copies that were saved of it. -/
structure Desk where
  reader : Reader
  /-- The copies, newest first. -/
  copies : List Reader := []

/-- Something done at a desk. -/
inductive Action where
  | perform (op : Operation)
  /-- Save a copy of the reader. -/
  | save
  /-- Go back to a copy, by its place among them. -/
  | restore (n : Nat)

namespace Desk

/-- The desk with a fresh reader. -/
def ofText (text : Text) : Desk := { reader := { text } }

/-- The desk after an action.  An operation that faults changes nothing, and neither does
going back to a copy that was not made. -/
def act (d : Desk) : Action → Desk
  | .perform op =>
      match d.reader.perform op with
      | .ok reader => { d with reader }
      | .error _ => d
  | .save => { d with copies := d.reader :: d.copies }
  | .restore n => { d with reader := d.copies[n]?.getD d.reader }

/-- The desk after some actions. -/
def actAll (d : Desk) (actions : List Action) : Desk := actions.foldl act d

end Desk

/-! ## The invariant -/

/-- What holds of a reader in any hands. -/
structure IsSound (r : Reader) : Prop where
  mark_le : r.mark ≤ r.text.size
  pos_le : r.pos ≤ r.text.size
  mark_boundary : r.text.isBoundary r.mark = true
  pos_boundary : r.text.isBoundary r.pos = true
  /-- The read that can be undone was that of the character before the place. -/
  width : ∀ width, r.width? = some width → 0 < width →
    ∃ start c, start + width = r.pos ∧ r.text.slice? start r.pos = some [c]
  /-- The mark is at most one character ahead, and then there is no read to undo. -/
  ordered : r.mark ≤ r.pos ∨ (r.width? = none ∧ ∃ c, r.text.slice? r.pos r.mark = some [c])

/-- What the width of the last read says about what was read. -/
inductive LastRead : Text → Option Nat → Prop where
  | none (before : Text) : LastRead before none
  | atEnd (before : Text) : LastRead before (some 0)
  | char (before : Text) (c : Char) : LastRead (before ++ [c]) (some c.utf8Size)

/-- Where the mark of a reader can be that stands between what was read and the rest. -/
inductive Marked : Text → Text → Option Nat → Nat → Prop where
  | behind (taken held rest : Text) (width? : Option Nat) :
      Marked (taken ++ held) rest width? (size taken)
  | ahead (before : Text) (c : Char) (rest : Text) :
      Marked before (c :: rest) none (size (before ++ [c]))

/-- A reader that stands at a split of a text, with a mark and a width as they can be there. -/
inductive Stands : Text → Reader → Prop where
  | between {mark : Nat} {before rest : Text} {width? : Option Nat}
      (last : LastRead before width?) (marked : Marked before rest width? mark) :
      Stands (before ++ rest) (standing mark before rest width?)

variable {text before rest : Text} {mark : Nat} {width? : Option Nat} {r : Reader}

theorem isBoundary_size (before rest : Text) : isBoundary (before ++ rest) (size before) = true :=
  isBoundary_iff.mpr ⟨before, rest, rfl, rfl⟩

theorem slice?_char (before : Text) (c : Char) (rest : Text) :
    slice? (before ++ c :: rest) (size before) (size (before ++ [c])) = some [c] := by
  have cut := slice?_append before [c] rest
  rwa [← size_append, List.append_assoc] at cut

theorem Stands.isSound (stands : Stands text r) : r.text = text ∧ r.IsSound := by
  obtain @⟨mark, before, rest, width?, last, marked⟩ := stands
  refine ⟨rfl, ?_, size_le_append _ _, ?_, isBoundary_size _ _, ?_, ?_⟩
  · cases marked with
    | behind taken held => simp [standing]
    | ahead _ c rest => simp [standing]
  · cases marked with
    | behind taken held =>
        simp only [standing, List.append_assoc]
        exact isBoundary_size _ _
    | ahead _ c rest =>
        simp only [standing]
        rw [List.append_cons]
        exact isBoundary_size _ _
  · intro width read wide
    cases last with
    | none => cases read
    | atEnd =>
        cases read
        cases wide
    | char start c =>
        cases read
        refine ⟨size start, c, by simp [standing], ?_⟩
        simp only [standing, List.append_assoc]
        exact slice?_char start c rest
  · cases marked with
    | behind taken held => exact Or.inl (size_le_append _ _)
    | ahead _ c rest => exact Or.inr ⟨rfl, c, slice?_char before c rest⟩

/-- The last read was in the text. -/
theorem LastRead.width_le (last : LastRead before width?) : width?.getD 0 ≤ size before := by
  cases last with
  | none | atEnd => exact Nat.zero_le _
  | char start c => simp

/-- The longer of two first parts of a text goes on from the shorter one. -/
theorem exists_step {upTo after : Text} (same : before ++ rest = upTo ++ after)
    (later : size before ≤ size upTo) : ∃ step, upTo = before ++ step ∧ rest = step ++ after := by
  rcases List.append_eq_append_iff.mp same with ⟨step, rfl, rfl⟩ | ⟨back, rfl, rfl⟩
  · exact ⟨step, rfl, rfl⟩
  · have nothing : back = [] := by
      by_contra moved
      have := size_pos moved
      rw [size_append] at later
      omega
    exact ⟨[], by simp [nothing], by simp [nothing]⟩

/-! ## What an operation does to the mark -/

/-- A step over the text passes a mark that was ahead. -/
theorem Marked.pass {step after : Text} (marked : Marked before (step ++ after) width? mark)
    (moves : step ≠ []) (width'? : Option Nat) : Marked (before ++ step) after width'? mark := by
  generalize split : step ++ after = rest at marked
  cases marked with
  | behind taken held =>
      rw [List.append_assoc]
      exact .behind taken (held ++ step) after width'?
  | ahead _ c rest =>
      obtain ⟨d, step, rfl⟩ := List.exists_cons_of_ne_nil moves
      obtain ⟨rfl, rfl⟩ := List.cons.inj split
      rw [List.append_cons]
      exact .behind (before ++ [d]) step after width'?

/-- Without a width the mark may stay where it is. -/
theorem Marked.forget (marked : Marked before rest width? mark) : Marked before rest none mark := by
  cases marked with
  | behind taken held => exact .behind taken held rest none
  | ahead _ c rest => exact .ahead before c rest

/-- A read at the end leaves the mark behind. -/
theorem Marked.atEnd (marked : Marked before [] width? mark) : Marked before [] (some 0) mark := by
  cases marked with
  | behind taken held => exact .behind taken held [] (some 0)

/-- An unread leaves the mark behind, or ahead if nothing else was read since. -/
theorem Marked.unread {c : Char} (marked : Marked (before ++ [c]) rest (some c.utf8Size) mark) :
    Marked before (c :: rest) none mark := by
  generalize split : before ++ [c] = read, undo : some c.utf8Size = width? at marked
  cases marked with
  | behind taken held =>
      rcases List.eq_nil_or_concat held with rfl | ⟨held, d, rfl⟩
      · rw [List.append_nil] at split
        subst split
        exact .ahead before c rest
      · rw [List.concat_eq_append, ← List.append_assoc] at split
        obtain ⟨rfl, _⟩ := List.append_inj' split rfl
        exact .behind taken held (c :: rest) none
  | ahead => cases undo

/-- The mark can always be set to the place. -/
theorem Marked.here (before rest : Text) (width? : Option Nat) :
    Marked before rest width? (size before) := by
  simpa using Marked.behind before [] rest width?

/-! ## What an operation does to a reader -/

/-- A reader that moved on stands behind what it moved over. -/
theorem Marked.stands {step after : Text} (marked : Marked before (step ++ after) width? mark) :
    Stands (before ++ (step ++ after)) (standing mark (before ++ step) after) := by
  rw [← List.append_assoc]
  by_cases still : step = []
  · subst still
    rw [List.append_nil]
    exact .between (.none before) marked.forget
  · exact .between (.none _) (marked.pass still none)

/-- A reader that read a character stands behind it, and can undo the read. -/
theorem Marked.stands_read {c : Char} {after : Text}
    (marked : Marked before (c :: after) width? mark) :
    Stands (before ++ c :: after) (standing mark (before ++ [c]) after (some c.utf8Size)) := by
  have passed : Marked (before ++ [c]) after (some c.utf8Size) mark :=
    marked.pass (List.cons_ne_nil c []) _
  rw [List.append_cons]
  exact .between (.char before c) passed

/-- An operation keeps a reader in its text, or it faults, and then as `refusal?` says. -/
inductive Outcome (text : Text) (r : Reader) (op : Operation) : Prop where
  | kept {r' : Reader} (allowed : r.refusal? op = none) (done : r.perform op = .ok r')
      (stands : Stands text r')
  | refused {f : Fault} (announced : r.refusal? op = some f) (faults : r.perform op = .error f)

section Outcomes

variable (last : LastRead before width?) (marked : Marked before rest width? mark)
  (fits : (before ++ rest).Fits)

include marked fits

theorem outcome_read : Outcome (before ++ rest) (standing mark before rest width?) .read := by
  cases rest with
  | nil =>
      exact .kept rfl (congrArg (Except.map _) read_standing_nil)
        (.between (.atEnd before) marked.atEnd)
  | cons c rest =>
      exact .kept rfl (congrArg (Except.map _) (read_standing_cons fits)) marked.stands_read

theorem outcome_peek : Outcome (before ++ rest) (standing mark before rest width?) .peek :=
  .kept rfl (congrArg (Except.map _) (peek_standing fits)) (.between (.none before) marked.forget)

theorem outcome_readIf (valid : Char → Bool) :
    Outcome (before ++ rest) (standing mark before rest width?) (.readIf valid) := by
  cases rest with
  | nil =>
      exact .kept rfl (congrArg (Except.map _) (readIf_standing_nil valid))
        (.between (.none before) marked.forget)
  | cons c rest =>
      cases accepted : valid c with
      | true =>
          exact .kept rfl (congrArg (Except.map _) (readIf_standing_of_valid accepted fits))
            marked.stands_read
      | false =>
          exact .kept rfl (congrArg (Except.map _) (readIf_standing_of_invalid accepted fits))
            (.between (.none before) marked.forget)

theorem outcome_readWhile (valid : Char → Bool) :
    Outcome (before ++ rest) (standing mark before rest width?) (.readWhile valid) := by
  obtain ⟨run, after, rfl, all, stop⟩ := exists_split_of_valid valid rest
  exact .kept rfl (readWhile_standing all stop fits) marked.stands

theorem outcome_seek (pattern : Text) :
    Outcome (before ++ rest) (standing mark before rest width?) (.seek pattern) := by
  cases found : Text.offsetOf? pattern rest with
  | none =>
      have atEnd : Marked before (rest ++ []) width? mark := by rwa [List.append_nil]
      have stands := atEnd.stands
      rw [List.append_nil] at stands
      exact .kept rfl (congrArg (Except.map _) (seek_standing_of_not_found found)) stands
  | some n =>
      obtain ⟨⟨skipped, after, rfl, rfl⟩, _⟩ := isLeast_of_offsetOf? found
      rw [List.append_assoc] at found marked fits ⊢
      exact .kept rfl (congrArg (Except.map _) (seek_standing_of_found found fits)) marked.stands

/-- A skip leads to its boundary, or to the end if that comes first. -/
theorem outcome_skip (length : Nat) :
    Outcome (before ++ rest) (standing mark before rest width?) (.skip length) := by
  by_cases large : Offset.limit < size before + length
  · refine .refused (if_pos large) ?_
    simp only [perform, skip, standing, Offset.add_eq_error large, bind, Except.bind]
  have summed := Offset.add_eq_ok (Nat.le_of_not_lt large)
  cases boundary : isBoundary (before ++ rest) (min (size before + length) (size (before ++ rest)))
  · have announced : (standing mark before rest width?).refusal? (.skip length) =
        some (.splitsCharacter length (size before)) := by
      simp only [refusal?, standing, large, if_false, boundary, Bool.false_eq_true]
    refine .refused announced ?_
    simp only [perform, skip, standing, summed, bind, Except.bind, boundary, Bool.false_eq_true,
      if_false]
    rfl
  · obtain ⟨upTo, after, split, sized⟩ := isBoundary_iff.mp boundary
    have later : size before ≤ size upTo := by
      rw [sized, size_append]
      omega
    obtain ⟨step, rfl, rfl⟩ := exists_step split later
    refine .kept ?_ ?_ marked.stands
    · simp only [refusal?, standing, large, if_false, boundary, if_true]
    · simp only [perform, skip, standing, summed, bind, Except.bind, boundary, if_true]
      rw [← sized, List.append_assoc]
      rfl

end Outcomes

section Outcomes

variable (last : LastRead before width?) (marked : Marked before rest width? mark)

include last marked

theorem outcome_unread : Outcome (before ++ rest) (standing mark before rest width?) .unread := by
  cases last with
  | none => exact .refused rfl rfl
  | atEnd => exact .kept rfl unread_standing_zero (.between (.none before) marked.forget)
  | char start c =>
      rw [List.append_assoc]
      exact .kept rfl (unread_standing c) (.between (.none start) marked.unread)

theorem outcome_lexeme :
    Outcome (before ++ rest) (standing mark before rest width?) .lexeme ∧
      Outcome (before ++ rest) (standing mark before rest width?) .takeLexeme := by
  cases marked with
  | behind taken held =>
      have inOrder : ¬ size (taken ++ held) < size taken := Nat.not_lt.mpr (size_le_append _ _)
      constructor
      · exact .kept (if_neg inOrder) (congrArg (Except.map _) lexeme_holding)
          (.between last (.behind taken held rest width?))
      · have taking : (standing (size taken) (taken ++ held) rest width?).takeLexeme =
            .ok ((Span.between (size taken) (size (taken ++ held)), held),
              standing (size (taken ++ held)) (taken ++ held) rest width?) :=
          holding_nil ▸ takeLexeme_holding
        exact .kept (if_neg inOrder) (congrArg (Except.map _) taking)
          (.between last (.here _ rest width?))
  | ahead _ c rest =>
      have outOfOrder : size before < size (before ++ [c]) := by
        simp [Char.utf8Size_pos]
      have noSlice : slice? (before ++ c :: rest) (size (before ++ [c])) (size before) = none :=
        if_neg (Nat.not_le.mpr outOfOrder)
      have noLexeme : (standing (size (before ++ [c])) before (c :: rest)).lexeme =
          .error .badSlice := by
        simp only [lexeme, standing, noSlice, Fault.ofSlice]
      constructor
      · exact .refused (if_pos outOfOrder) (congrArg (Except.map _) noLexeme)
      · refine .refused (if_pos outOfOrder) ?_
        simp only [perform, takeLexeme, noLexeme, bind, Except.bind, Except.map]

theorem outcome_lastSpan :
    Outcome (before ++ rest) (standing mark before rest width?) .lastSpan := by
  refine .kept rfl ?_ (.between last marked)
  simp only [perform, lastSpan, standing, Offset.sub_eq_ok last.width_le]
  rfl

end Outcomes

/-- An operation keeps a reader in its text, or it faults as `refusal?` says. -/
theorem Stands.perform (stands : Stands text r) (fits : text.Fits) (op : Operation) :
    Outcome text r op := by
  obtain ⟨last, marked⟩ := stands
  cases op with
  | read => exact outcome_read marked fits
  | unread => exact outcome_unread last marked
  | peek => exact outcome_peek marked fits
  | readIf valid => exact outcome_readIf marked fits valid
  | readWhile valid => exact outcome_readWhile marked fits valid
  | isAt pattern =>
      exact .kept rfl (congrArg (Except.map _) (isAt_standing pattern)) (.between last marked)
  | skip length => exact outcome_skip marked fits length
  | seek pattern => exact outcome_seek marked fits pattern
  | dropLexeme => exact .kept rfl rfl (.between last (.here _ _ _))
  | takeLexeme => exact (outcome_lexeme last marked).2
  | rest => exact .kept rfl (congrArg (Except.map _) rest_standing) (.between last marked)
  | lexeme => exact (outcome_lexeme last marked).1
  | lastSpan => exact outcome_lastSpan last marked

/-- An operation faults in the cases of `refusal?` alone. -/
theorem Stands.perform_eq_error_iff (stands : Stands text r) (fits : text.Fits) (op : Operation)
    (f : Fault) : r.perform op = .error f ↔ r.refusal? op = some f := by
  cases stands.perform fits op with
  | kept allowed done => simp [allowed, done]
  | refused announced faults => simp [announced, faults]

/-! ## Any actions -/

namespace Desk

variable {d : Desk}

/-- The reader of a desk stands in its text, and so do the copies. -/
def Stands (text : Text) (d : Desk) : Prop :=
  Reader.Stands text d.reader ∧ ∀ r ∈ d.copies, Reader.Stands text r

theorem stands_ofText (text : Text) : (ofText text).Stands text :=
  ⟨.between (.none []) (.here [] text none), List.forall_mem_nil _⟩

theorem Stands.act (stands : d.Stands text) (fits : text.Fits) (action : Action) :
    (d.act action).Stands text := by
  obtain ⟨reader, copies⟩ := stands
  cases action with
  | perform op =>
      cases reader.perform fits op with
      | kept _ done stands =>
          simp only [Desk.act, done]
          exact ⟨stands, copies⟩
      | refused _ faults =>
          simp only [Desk.act, faults]
          exact ⟨reader, copies⟩
  | save => exact ⟨reader, List.forall_mem_cons.mpr ⟨reader, copies⟩⟩
  | restore n =>
      refine ⟨?_, copies⟩
      cases saved : d.copies[n]? with
      | none => simpa [Desk.act, saved] using reader
      | some r => simpa [Desk.act, saved] using copies r (List.mem_of_getElem? saved)

theorem Stands.actAll (stands : d.Stands text) (fits : text.Fits) (actions : List Action) :
    (d.actAll actions).Stands text := by
  induction actions generalizing d with
  | nil => exact stands
  | cons action actions ih => exact ih (stands.act fits action)

end Desk

/-- After any actions the reader is sound, and its operations fault in the cases of `refusal?`
alone. -/
theorem actAll_isSound {text : Text} (fits : text.Fits) (actions : List Action) :
    ((Desk.ofText text).actAll actions).reader.text = text ∧
    ((Desk.ofText text).actAll actions).reader.IsSound ∧
    ∀ op f, ((Desk.ofText text).actAll actions).reader.perform op = .error f ↔
      ((Desk.ofText text).actAll actions).reader.refusal? op = some f := by
  have stands := ((Desk.stands_ofText text).actAll fits actions).1
  exact ⟨stands.isSound.1, stands.isSound.2, stands.perform_eq_error_iff fits⟩

/-- After a read, a drop and an unread the mark is ahead of the place by a wide character, and
there is no lexeme. -/
theorem actAll_isSound_of_overshoot :
    ∃ r, ((Desk.ofText ['é', 'x']).actAll
        [.perform .read, .perform .dropLexeme, .save, .perform .unread]).reader = r ∧
      (r.mark, r.pos, r.width?) = (2, 0, none) ∧ r.IsSound ∧
      r.perform .takeLexeme = .error .badSlice := by
  have fits : Text.Fits ['é', 'x'] := by decide
  obtain ⟨_, sound, faults⟩ := actAll_isSound fits
    [.perform .read, .perform .dropLexeme, .save, .perform .unread]
  exact ⟨_, rfl, rfl, sound, (faults .takeLexeme .badSlice).mpr rfl⟩

end TemplateLexer.Reader
