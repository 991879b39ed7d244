import TemplateLexer.Proofs.Utf8

/-!
# Malformed sequences

Which bytes the reader takes for a malformed sequence is said here without the reader.
No character starts where a malformed sequence does (`IsMalformed.noChar`).  The sequence
is the longest run of bytes that starts a character and does not finish it, or a single
byte if there is no such run (`IsMalformed.longest`).

What one byte does is listed once (`Starts`, `Continues`), and what the machine makes of all
bytes is proved from that.

`ReadsAs` cuts bytes into characters and such sequences.  There is one way of cutting
them (`ReadsAs.unique`), and it is that of the reader (`readsAs_pieces`).  The bytes of
a text are cut into its characters (`pieces_encode`).
-/

namespace TemplateLexer.Text

/-! ## Parts of a character -/

/-- Whether bytes start a character and do not finish it. -/
def IsCutShort (bs : Bytes) : Prop :=
  bs ≠ [] ∧ ∃ c owed, owed ≠ [] ∧ String.utf8EncodeChar c = bs ++ owed

/-- There is no room for a whole character in a part of one. -/
theorem IsCutShort.not_prefix {bs : Bytes} (short : IsCutShort bs) (c : Char) :
    ¬ String.utf8EncodeChar c <+: bs := by
  obtain ⟨-, c', owed, nonempty, encoded⟩ := short
  rintro ⟨more, rfl⟩
  rw [← List.append_nil (String.utf8EncodeChar c'), List.append_assoc] at encoded
  obtain ⟨-, rest⟩ := utf8EncodeChar_append_inj encoded
  exact nonempty (List.append_eq_nil_iff.mp rest.symm).2

theorem IsCutShort.length_le {bs : Bytes} (short : IsCutShort bs) : bs.length ≤ 3 := by
  obtain ⟨-, c, owed, nonempty, encoded⟩ := short
  have total := congrArg List.length encoded
  have owes := List.length_pos_iff.mpr nonempty
  have most := c.utf8Size_le_four
  rw [String.length_utf8EncodeChar, List.length_append] at total
  omega

/-- Bytes that form no character, in front of others. -/
structure IsMalformed (bad after : Bytes) : Prop where
  /-- No character starts there. -/
  noChar : ∀ c, ¬ String.utf8EncodeChar c <+: bad ++ after
  /-- They are the longest start of a character there, or one byte if there is none. -/
  longest :
    (IsCutShort bad ∧
      ∀ start, start <+: bad ++ after → IsCutShort start → start.length ≤ bad.length) ∨
    (bad.length = 1 ∧ ∀ start, start <+: bad ++ after → ¬ IsCutShort start)

namespace IsMalformed

variable {bad after : Bytes}

theorem ne_nil (malformed : IsMalformed bad after) : bad ≠ [] := by
  obtain ⟨⟨nonempty, -⟩, -⟩ | ⟨single, -⟩ := malformed.longest
  · exact nonempty
  · exact List.ne_nil_of_length_eq_add_one single

theorem length_le (malformed : IsMalformed bad after) : bad.length ≤ 3 := by
  obtain ⟨short, -⟩ | ⟨single, -⟩ := malformed.longest
  · exact short.length_le
  · omega

/-- The malformed sequence at the start of some bytes is the only one. -/
theorem unique {bad' after' : Bytes} (malformed : IsMalformed bad after)
    (malformed' : IsMalformed bad' after') (same : bad ++ after = bad' ++ after') :
    bad = bad' ∧ after = after' := by
  have begins : bad <+: bad' ++ after' := ⟨after, same⟩
  have begins' : bad' <+: bad ++ after := ⟨after', same.symm⟩
  apply List.append_inj same
  obtain ⟨short, longest⟩ | ⟨single, none⟩ := malformed.longest <;>
    obtain ⟨short', longest'⟩ | ⟨single', none'⟩ := malformed'.longest
  · exact Nat.le_antisymm (longest' bad begins short) (longest bad' begins' short')
  · exact absurd short (none' bad begins)
  · exact absurd short' (none bad' begins')
  · exact single.trans single'.symm

end IsMalformed

/-! ## Inside a character -/

/-- The machine holds what it read of a character. -/
structure Partial.Holds (p : Partial) (read : Bytes) : Prop where
  nonempty : read ≠ []
  seen : p.seen = read.length
  live : p.IsLive
  finishes : ∀ bs c, String.utf8EncodeChar c = read ++ bs ↔ p.Finishes bs c

namespace Partial.Holds

variable {p : Partial} {read : Bytes} {b : UInt8}

theorem of_startsWith (starts : StartsWith b p) : p.Holds [b] where
  nonempty := List.cons_ne_nil _ _
  seen := starts.seen
  live := starts.isLive
  finishes _ _ := starts.utf8EncodeChar_eq_cons_iff

theorem next (holds : p.Holds read) (takes : p.Takes b) (more : p.owed ≠ 1) :
    (p.next b).Holds (read ++ [b]) where
  nonempty := List.append_ne_nil_of_right_ne_nil _ (List.cons_ne_nil _ _)
  seen := by rw [Partial.next, holds.seen, List.length_append, List.length_singleton]
  live := holds.live.next_isLive more takes
  finishes bs c := by
    rw [List.append_assoc, List.singleton_append, holds.finishes, finishes_cons_iff_of_next more]
    exact and_iff_right takes

/-- A last byte makes the character that the machine reads. -/
theorem last (holds : p.Holds read) (takes : p.Takes b) (last : p.owed = 1) :
    String.utf8EncodeChar (Char.ofNat (p.valueWith b)) = read ++ [b] :=
  (holds.finishes _ _).mpr
    (.last takes last (holds.live.toNat_ofNat_valueWith last takes).symm)

theorem isCutShort (holds : p.Holds read) : IsCutShort read := by
  obtain ⟨bs, c, finishes⟩ := holds.live.exists_finishes
  refine ⟨holds.nonempty, c, bs, ?_, (holds.finishes bs c).mpr finishes⟩
  rintro rfl
  exact not_finishes_nil finishes

/-- No character goes on with a byte that is refused. -/
theorem not_encoded (holds : p.Holds read) {after : Bytes}
    (refused : ∀ b ∈ after.head?, ¬ p.Takes b) {bs : Bytes} (nonempty : bs ≠ [])
    (begins : bs <+: after) (c : Char) (more : Bytes) :
    String.utf8EncodeChar c ≠ read ++ bs ++ more := by
  intro encoded
  obtain ⟨rest, rfl⟩ := begins
  cases bs with
  | nil => exact nonempty rfl
  | cons b bs =>
      rw [List.append_assoc, holds.finishes] at encoded
      exact refused b rfl encoded.takes

theorem isMalformed (holds : p.Holds read) {after : Bytes}
    (refused : ∀ b ∈ after.head?, ¬ p.Takes b) : IsMalformed read after := by
  refine ⟨?_, .inl ⟨holds.isCutShort, ?_⟩⟩
  · intro c begins
    obtain shorter | ⟨bs, longer⟩ :=
      List.prefix_or_prefix_of_prefix begins (List.prefix_append read after)
    · exact holds.isCutShort.not_prefix c shorter
    · have nonempty : bs ≠ [] := by
        rintro rfl
        rw [List.append_nil] at longer
        exact holds.isCutShort.not_prefix c (longer ▸ List.prefix_refl read)
      rw [← longer, List.prefix_append_right_inj] at begins
      refine holds.not_encoded refused nonempty begins c [] ?_
      rw [List.append_nil, longer]
  · intro start begins short
    apply Nat.le_of_not_lt
    intro longer
    obtain ⟨bs, rfl⟩ := List.prefix_of_prefix_length_le (List.prefix_append read after) begins
      (Nat.le_of_lt longer)
    have nonempty : bs ≠ [] := by
      rintro rfl
      rw [List.append_nil] at longer
      exact Nat.lt_irrefl _ longer
    obtain ⟨-, c, owed, -, encoded⟩ := short
    exact holds.not_encoded refused nonempty ((List.prefix_append_right_inj read).mp begins) c
      owed encoded

end Partial.Holds

/-- The machine does not go on where no character does. -/
theorem ne_of_ofLead?_eq_none {b : UInt8} (eight : 0x80 ≤ b.toNat)
    (none : Partial.ofLead? b = none) (c : Char) (bs : Bytes) :
    String.utf8EncodeChar c ≠ b :: bs := by
  intro encoded
  obtain ⟨p, starts⟩ := Partial.exists_startsWith eight encoded
  rw [Partial.ofLead?_eq_some_iff.mpr starts] at none
  cases none

/-- A byte that starts no character is malformed by itself. -/
theorem isMalformed_singleton {b : UInt8} (eight : 0x80 ≤ b.toNat)
    (none : Partial.ofLead? b = none) (after : Bytes) : IsMalformed [b] after := by
  have starts := ne_of_ofLead?_eq_none eight none
  refine ⟨?_, .inr ⟨rfl, ?_⟩⟩
  · rintro c ⟨more, encoded⟩
    cases bytes : String.utf8EncodeChar c with
    | nil => exact String.utf8EncodeChar_ne_nil bytes
    | cons b' bs =>
        rw [bytes] at encoded
        cases encoded
        exact starts c bs bytes
  · rintro start begins ⟨nonempty, c, owed, -, encoded⟩
    cases start with
    | nil => exact nonempty rfl
    | cons b' bs =>
        obtain ⟨rfl, -⟩ := List.cons_prefix_cons.mp begins
        exact starts c (bs ++ owed) encoded

/-! ## One byte -/

/-- What a byte does at the start of a character. -/
inductive Starts (b : UInt8) : List Piece × Option Partial → Prop where
  | char {c : Char} (encoded : String.utf8EncodeChar c = [b]) : Starts b ([.char c], none)
  | holds {p : Partial} (holds : p.Holds [b]) : Starts b ([], some p)
  | malformed (malformed : ∀ after, IsMalformed [b] after)
      (decided : ∀ after, ¬ IsCutShort (b :: after)) : Starts b ([.malformed 1], none)

/-- What a byte does behind those that were read of a character.  If it is refused, it is read
again. -/
inductive Continues (read : Bytes) (b : UInt8) : List Piece × Option Partial → Prop where
  | char {c : Char} (encoded : String.utf8EncodeChar c = read ++ [b]) :
      Continues read b ([.char c], none)
  | holds {p : Partial} (holds : p.Holds (read ++ [b])) : Continues read b ([], some p)
  | malformed (malformed : ∀ after, IsMalformed read (b :: after))
      (decided : ∀ after, ¬ IsCutShort (read ++ b :: after)) :
      Continues read b (.malformed read.length :: (startWith b).1, (startWith b).2)

theorem starts_startWith (b : UInt8) : Starts b (startWith b) := by
  rw [startWith]
  split
  next short =>
    rw [UInt8.lt_iff_toNat_lt] at short
    have value := toNat_ofNat_of_isValidChar (Or.inl (Nat.lt_trans short (by decide)))
    exact .char ((utf8EncodeChar_eq_cons_iff_of_lt short).mpr ⟨value, rfl⟩)
  next long =>
    rw [UInt8.lt_iff_toNat_lt, Nat.not_lt] at long
    cases lead : Partial.ofLead? b with
    | some p => exact .holds (.of_startsWith (Partial.ofLead?_eq_some_iff.mp lead))
    | none =>
        refine .malformed (isMalformed_singleton long lead) ?_
        rintro after ⟨-, c, owed, -, encoded⟩
        exact ne_of_ofLead?_eq_none long lead c (after ++ owed) encoded

theorem continues_continueWith {p : Partial} {read : Bytes} (holds : p.Holds read) (b : UInt8) :
    Continues read b (p.continueWith b) := by
  by_cases takes : p.Takes b
  · by_cases last : p.owed = 1
    · rw [p.continueWith_of_last takes last]
      exact .char (holds.last takes last)
    · rw [p.continueWith_of_next takes last]
      exact .holds (holds.next takes last)
  · have refused (after : Bytes) : ∀ b' ∈ (b :: after).head?, ¬ p.Takes b' := by
      rintro b' ⟨⟩
      exact takes
    rw [p.continueWith_of_not_takes takes, holds.seen]
    refine .malformed (fun after => holds.isMalformed (refused after)) ?_
    rintro after ⟨-, c, owed, -, encoded⟩
    exact holds.not_encoded (refused after) (List.cons_ne_nil b after) (List.prefix_refl _) c owed
      encoded

/-! ## Cutting bytes -/

/-- Bytes cut into characters and malformed sequences. -/
inductive ReadsAs : Bytes → List Piece → Prop where
  | nil : ReadsAs [] []
  | char (c : Char) {bs : Bytes} {ps : List Piece} (rest : ReadsAs bs ps) :
      ReadsAs (String.utf8EncodeChar c ++ bs) (.char c :: ps)
  | malformed {bad bs : Bytes} {ps : List Piece} (malformed : IsMalformed bad bs)
      (rest : ReadsAs bs ps) : ReadsAs (bad ++ bs) (.malformed bad.length :: ps)

/-- A byte at the start of a character and what follows it are cut as the machine does,
if it does so from there on. -/
theorem readsAs_startWith {b : UInt8} {bs : Bytes} (outside : ReadsAs bs (piecesFrom none bs))
    (inside : ∀ p read, p.Holds read → ReadsAs (read ++ bs) (piecesFrom (some p) bs)) :
    ReadsAs (b :: bs) (piecesFrom none (b :: bs)) := by
  have starts := starts_startWith b
  rw [piecesFrom]
  generalize startWith b = step at starts
  cases starts with
  | @char c encoded =>
      have read := ReadsAs.char c outside
      rwa [encoded] at read
  | holds holds => exact inside _ _ holds
  | malformed malformed => exact .malformed (malformed bs) outside

/-- The machine cuts bytes as they are to be cut, also from inside a character. -/
theorem readsAs_piecesFrom (bs : Bytes) :
    ReadsAs bs (piecesFrom none bs) ∧
      ∀ p read, p.Holds read → ReadsAs (read ++ bs) (piecesFrom (some p) bs) := by
  induction bs with
  | nil =>
      refine ⟨.nil, fun p read holds => ?_⟩
      rw [piecesFrom, holds.seen]
      exact .malformed (holds.isMalformed nofun) .nil
  | cons b bs ih =>
      obtain ⟨outside, inside⟩ := ih
      have start := readsAs_startWith (b := b) outside inside
      refine ⟨start, fun p read holds => ?_⟩
      have continues := continues_continueWith holds b
      rw [piecesFrom]
      generalize p.continueWith b = step at continues
      cases continues with
      | @char c encoded =>
          have read' := ReadsAs.char c outside
          rwa [encoded, List.append_assoc] at read'
      | holds holds =>
          have read' := inside _ _ holds
          rwa [List.append_assoc] at read'
      | malformed malformed => exact .malformed (malformed bs) start

/-- The pieces of bytes are their characters and malformed sequences. -/
theorem readsAs_pieces (bs : Bytes) : ReadsAs bs (pieces bs) := (readsAs_piecesFrom bs).1

namespace ReadsAs

theorem eq_nil {ps : List Piece} (reads : ReadsAs [] ps) : ps = [] := by
  generalize bytes : ([] : Bytes) = bs at reads
  cases reads with
  | nil => rfl
  | char c => exact absurd (List.append_eq_nil_iff.mp bytes.symm).1 String.utf8EncodeChar_ne_nil
  | malformed malformed =>
      exact absurd (List.append_eq_nil_iff.mp bytes.symm).1 malformed.ne_nil

/-- A character is cut off where there is one. -/
theorem exists_of_char {c : Char} {bs : Bytes} {ps : List Piece}
    (reads : ReadsAs (String.utf8EncodeChar c ++ bs) ps) :
    ∃ qs, ps = .char c :: qs ∧ ReadsAs bs qs := by
  generalize bytes : String.utf8EncodeChar c ++ bs = all at reads
  cases reads with
  | nil => exact absurd (List.append_eq_nil_iff.mp bytes).1 String.utf8EncodeChar_ne_nil
  | char c' rest =>
      obtain ⟨rfl, rfl⟩ := utf8EncodeChar_append_inj bytes
      exact ⟨_, rfl, rest⟩
  | malformed malformed => exact absurd ⟨bs, bytes⟩ (malformed.noChar c)

/-- A malformed sequence is cut off where there is one. -/
theorem exists_of_malformed {bad bs : Bytes} {ps : List Piece} (malformed : IsMalformed bad bs)
    (reads : ReadsAs (bad ++ bs) ps) : ∃ qs, ps = .malformed bad.length :: qs ∧ ReadsAs bs qs := by
  generalize bytes : bad ++ bs = all at reads
  cases reads with
  | nil => exact absurd (List.append_eq_nil_iff.mp bytes).1 malformed.ne_nil
  | char c => exact absurd ⟨_, bytes.symm⟩ (malformed.noChar c)
  | malformed malformed' rest =>
      obtain ⟨rfl, rfl⟩ := malformed.unique malformed' bytes
      exact ⟨_, rfl, rest⟩

/-- There is one way of cutting bytes. -/
theorem unique {bs : Bytes} {ps ps' : List Piece} (first : ReadsAs bs ps)
    (second : ReadsAs bs ps') : ps = ps' := by
  induction first generalizing ps' with
  | nil => exact second.eq_nil.symm
  | char c _ ih =>
      obtain ⟨qs, rfl, rest⟩ := second.exists_of_char
      rw [ih rest]
  | malformed malformed _ ih =>
      obtain ⟨qs, rfl, rest⟩ := second.exists_of_malformed malformed
      rw [ih rest]

end ReadsAs

theorem ReadsAs.text {bs : Bytes} {ps : List Piece} (t : Text) (rest : ReadsAs bs ps) :
    ReadsAs (t.encode ++ bs) (t.map .char ++ ps) := by
  induction t with
  | nil => exact rest
  | cons c t ih =>
      rw [encode_cons, List.append_assoc]
      exact .char c ih

/-- The pieces of the bytes of a text are its characters. -/
theorem pieces_encode (t : Text) : pieces t.encode = t.map .char := by
  have reads := ReadsAs.nil.text t
  rw [List.append_nil, List.append_nil] at reads
  exact (readsAs_pieces _).unique reads

/-- The pieces of a text in front of a malformed sequence. -/
theorem pieces_of_isMalformed (t : Text) {bad after : Bytes} (malformed : IsMalformed bad after) :
    pieces (t.encode ++ (bad ++ after)) = t.map .char ++ .malformed bad.length :: pieces after :=
  (readsAs_pieces _).unique (.text t (.malformed malformed (readsAs_pieces after)))

theorem map_toChar_char (t : Text) : (t.map .char).map Piece.toChar = t := by
  rw [List.map_map]
  exact List.map_id t

theorem decode_encode (t : Text) : decode t.encode = t := by
  rw [decode, pieces_encode, map_toChar_char]

theorem decode_of_isMalformed (t : Text) {bad after : Bytes} (malformed : IsMalformed bad after) :
    decode (t.encode ++ (bad ++ after)) = t ++ replacement :: decode after := by
  rw [decode, pieces_of_isMalformed t malformed, List.map_append, map_toChar_char]
  rfl

end TemplateLexer.Text
