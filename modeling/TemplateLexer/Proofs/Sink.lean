import TemplateLexer.Output.Sink

/-!
# Writing texts one after another

Texts are written on a sink one after another, up to the first write that fails.  If there is
room for all of them, each is one write (`Sink.writeEach_of_le`).  If there is not, the writes
are the same up to the one that fails, which is the last one and ends where the room does
(`Sink.writeEach_of_lt`, `CutIn`).  So what was taken is the start of what there was to write
(`CutIn.flatten_eq`).
-/

namespace TemplateLexer

/-! ## Writes cut short -/

/-- Whether some writes are those of `whole` up to the one for which the room is too small.  As
much of that one is written as there is room for. -/
inductive CutIn : (room : Nat) → (whole writes : List Bytes) → Prop where
  | here {room : Nat} {bytes : Bytes} (exceeds : room < bytes.length) (rest : List Bytes) :
      CutIn room (bytes :: rest) [bytes.take room]
  | later {room : Nat} {whole writes : List Bytes} (bytes : Bytes) (cut : CutIn room whole writes) :
      CutIn (bytes.length + room) (bytes :: whole) (bytes :: writes)

/-- What is written is the start of the whole, and it fills the room. -/
theorem CutIn.flatten_eq {room : Nat} {whole writes : List Bytes} (cut : CutIn room whole writes) :
    writes.flatten = whole.flatten.take room := by
  induction cut with
  | here exceeds rest =>
      rw [List.flatten_singleton, List.flatten_cons,
        List.take_append_of_le_length (Nat.le_of_lt exceeds)]
  | later bytes cut ih =>
      rw [List.flatten_cons, List.flatten_cons, List.take_length_add_append, ih]

namespace Sink

/-! ## One write -/

/-- The writes on a sink, oldest first. -/
def writes (s : Sink) : List Bytes := s.chunks.reverse

theorem contents_eq (s : Sink) : s.contents = s.writes.flatten := rfl

theorem contents_append (room? : Option Nat) (writes chunks : List Bytes) :
    contents ⟨room?, writes.reverse ++ chunks⟩ = contents ⟨room?, chunks⟩ ++ writes.flatten := by
  simp only [contents, List.reverse_append, List.reverse_reverse, List.flatten_append]

/-- A sink without a limit takes every text. -/
theorem write_unlimited (chunks : List Bytes) (t : Text) :
    write ⟨none, chunks⟩ t = (.ok (), ⟨none, t.encode :: chunks⟩) := rfl

/-- A text is taken if there is room for it. -/
theorem write_of_le {room : Nat} {t : Text} (fits : t.encode.length ≤ room) (chunks : List Bytes) :
    write ⟨some room, chunks⟩ t =
      (.ok (), ⟨some (room - t.encode.length), t.encode :: chunks⟩) :=
  if_pos fits

/-- A text is cut if there is no room for it. -/
theorem write_of_lt {room : Nat} {t : Text} (exceeds : room < t.encode.length)
    (chunks : List Bytes) :
    write ⟨some room, chunks⟩ t = (.error full, ⟨some 0, t.encode.take room :: chunks⟩) :=
  if_neg (Nat.not_le_of_lt exceeds)

/-! ## One write after another -/

/-- Writes some texts, up to the first write that fails. -/
def writeEach : List Text → Sink → Except Failure Unit × Sink
  | [], sink => (.ok (), sink)
  | t :: texts, sink =>
      match sink.write t with
      | (.error failure, sink) => (.error failure, sink)
      | (.ok (), sink) => writeEach texts sink

theorem writeEach_unlimited (texts : List Text) (chunks : List Bytes) :
    writeEach texts ⟨none, chunks⟩ =
      (.ok (), ⟨none, (texts.map Text.encode).reverse ++ chunks⟩) := by
  induction texts generalizing chunks with
  | nil => rfl
  | cons t texts ih =>
      simp only [writeEach, write_unlimited, ih, List.map_cons, List.reverse_cons,
        List.append_assoc, List.singleton_append]

/-- With room for all texts each of them is a write. -/
theorem writeEach_of_le {texts : List Text} {room : Nat}
    (fits : (texts.map Text.encode).flatten.length ≤ room) (chunks : List Bytes) :
    writeEach texts ⟨some room, chunks⟩ =
      (.ok (), ⟨some (room - (texts.map Text.encode).flatten.length),
        (texts.map Text.encode).reverse ++ chunks⟩) := by
  induction texts generalizing room chunks with
  | nil => rfl
  | cons t texts ih =>
      rw [List.map_cons, List.flatten_cons, List.length_append] at fits
      have first : t.encode.length ≤ room := Nat.le_of_add_right_le fits
      have later := ih (Nat.le_sub_of_add_le' fits) (t.encode :: chunks)
      simp only [writeEach, write_of_le first, later, List.map_cons, List.flatten_cons,
        List.length_append, List.reverse_cons, List.append_assoc, List.singleton_append,
        Nat.sub_add_eq]

/-- Without it the first text that exceeds the room is the last write. -/
theorem writeEach_of_lt {texts : List Text} {room : Nat}
    (exceeds : room < (texts.map Text.encode).flatten.length) (chunks : List Bytes) :
    ∃ writes, CutIn room (texts.map Text.encode) writes ∧
      writeEach texts ⟨some room, chunks⟩ = (.error full, ⟨some 0, writes.reverse ++ chunks⟩) := by
  induction texts generalizing room chunks with
  | nil => exact absurd exceeds (Nat.not_lt_zero room)
  | cons t texts ih =>
      obtain tooLong | fits := Nat.lt_or_ge room t.encode.length
      · refine ⟨[t.encode.take room], .here tooLong _, ?_⟩
        simp only [writeEach, write_of_lt tooLong, List.reverse_singleton, List.singleton_append]
      · obtain ⟨left, rfl⟩ := Nat.exists_eq_add_of_le fits
        rw [List.map_cons, List.flatten_cons, List.length_append, Nat.add_lt_add_iff_left] at exceeds
        obtain ⟨writes, cut, written⟩ := ih exceeds (t.encode :: chunks)
        refine ⟨t.encode :: writes, .later _ cut, ?_⟩
        simp only [writeEach, write_of_le fits, Nat.add_sub_cancel_left, written, List.reverse_cons,
          List.append_assoc, List.singleton_append]

end Sink

end TemplateLexer
