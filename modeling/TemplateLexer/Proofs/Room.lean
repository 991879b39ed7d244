import TemplateLexer.Proofs.Transcript

/-!
# Listings in limited room

Every line of a listing is one write, and so is its header.  A sink with room for the whole
listing takes all of it, and a sink without takes the start of it that fills the room.

* `write_isLimited`: what a listing finds and leaves, for each number of bytes that there is
  room for.

The whole listing is what is written without a limit.  The outcome is that of the whole, or
the failure of the sink.  So no outcome stands beside a listing that was cut.
-/

namespace TemplateLexer.Listing

variable {source : Source} {front : List Token}

/-- The writes of a listing are its header and the lines of the tokens that are listed. -/
theorem map_encode_texts (settings : Settings) (template : Text)
    (goes : ∀ t ∈ front, t.endsRun = false) (last : Token) :
    (texts settings template (front ++ [last])).map Text.encode =
      transcript settings template (listed settings front last) := by
  rw [texts, filter_isListed goes, List.map_cons, List.map_map]
  rfl

/-- A listing in limited room.

Without a limit the writes are the header and a line for each token that is listed.  With room
for all their bytes the outcome and the writes are the same.  Otherwise the listing fails, and
what is there of it fills the room.  The write that failed is then the last one. -/
theorem write_isLimited (settings : Settings) (fits : source.text.Fits) :
    ∃ front last whole, lex source.name source.text = .ok (front ++ [last]) ∧
      write settings source {} = .ok (.ok ⟨(front ++ [last]).length, last.error?⟩, whole) ∧
      whole.writes = transcript settings source.text (listed settings front last) ∧
      ∀ room,
        (whole.contents.length ≤ room → ∃ sink,
          write settings source { room? := some room } =
            .ok (.ok ⟨(front ++ [last]).length, last.error?⟩, sink) ∧
          sink.writes = whole.writes ∧ sink.contents = whole.contents) ∧
        (room < whole.contents.length → ∃ sink,
          write settings source { room? := some room } = .ok (.error Sink.full, sink) ∧
          CutIn room whole.writes sink.writes ∧ sink.contents = whole.contents.take room) := by
  obtain ⟨front, last, lexed, goes, -, -⟩ := exists_lex_concat source.name fits
  have written (sink : Sink) := write_eq_writeEach settings fits lexed sink
  have writes := map_encode_texts settings source.text goes last
  rw [Outcome.ofTokens_concat, Nat.zero_add] at written
  generalize texts settings source.text (front ++ [last]) = all at written writes
  let whole : Sink := ⟨none, (all.map Text.encode).reverse⟩
  have wholeWrites : whole.writes = all.map Text.encode := List.reverse_reverse _
  refine ⟨front, last, whole, lexed, ?_, wholeWrites.trans writes, fun room => ⟨?_, ?_⟩⟩
  · rw [written, Sink.writeEach_unlimited, List.append_nil]
    rfl
  · intro enough
    rw [Sink.contents_eq, wholeWrites] at enough
    refine ⟨⟨some (room - (all.map Text.encode).flatten.length), whole.chunks⟩, ?_, rfl, rfl⟩
    rw [written, Sink.writeEach_of_le enough, List.append_nil]
    rfl
  · intro tooLittle
    rw [Sink.contents_eq, wholeWrites] at tooLittle
    obtain ⟨taken, cut, failed⟩ := Sink.writeEach_of_lt tooLittle []
    have takenWrites : Sink.writes ⟨some 0, taken.reverse⟩ = taken := List.reverse_reverse _
    refine ⟨⟨some 0, taken.reverse⟩, ?_, ?_, ?_⟩
    · rw [written, failed, List.append_nil]
      rfl
    · rwa [takenWrites, wholeWrites]
    · rw [Sink.contents_eq, Sink.contents_eq, takenWrites, wholeWrites, cut.flatten_eq]

/-- The end of input has a line here, and it is the line that is cut. -/
theorem write_isLimited_of_end :
    let settings : Settings := { showEnd := true, width := 1 }
    let source : Source := .ofText ['t'] ['a', 'é']
    source.text.Fits ∧
    ∃ front last whole, lex source.name source.text = .ok (front ++ [last]) ∧
      write settings source {} = .ok (.ok ⟨(front ++ [last]).length, last.error?⟩, whole) ∧
      whole.writes = transcript settings source.text (listed settings front last) ∧
      ∀ room,
        (whole.contents.length ≤ room → ∃ sink,
          write settings source { room? := some room } =
            .ok (.ok ⟨(front ++ [last]).length, last.error?⟩, sink) ∧
          sink.writes = whole.writes ∧ sink.contents = whole.contents) ∧
        (room < whole.contents.length → ∃ sink,
          write settings source { room? := some room } = .ok (.error Sink.full, sink) ∧
          CutIn room whole.writes sink.writes ∧ sink.contents = whole.contents.take room) := by
  intro settings source
  have fits : source.text.Fits := by decide
  exact ⟨fits, write_isLimited settings fits⟩

end TemplateLexer.Listing
