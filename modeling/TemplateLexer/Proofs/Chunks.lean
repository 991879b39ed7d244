import TemplateLexer.Proofs.Decoding

/-!
# Bytes in two parts

Bytes that come in parts can be decoded part by part, if no part but the first begins with a
continuation byte.  At the seam the machine may hold some bytes of a character.  Where the
first part is decoded alone, the end of the bytes makes them a malformed sequence.  Where the
second part follows, its first byte does, since what can come next inside a character is a
continuation byte (`Partial.IsLive.isContinuation`).  Either way the sequence is the same, and
the machine goes on outside of a character (`piecesFrom_append`).

The text of the whole is then that of the parts.  So are the issues, and those of the second
part stand further on by the size of the first text (`Source.ofBytes_append`).  This relies on
the offsets being small enough, since a large position of an issue is cut off.
-/

namespace TemplateLexer

namespace Text

/-! ## Pieces -/

/-- Whether a byte is one that follows the first byte of a character. -/
def isContinuation (b : UInt8) : Bool := 0x80 ≤ b && b ≤ 0xBF

/-- Inside a character a continuation byte comes next. -/
theorem Partial.IsLive.isContinuation {p : Partial} {b : UInt8} (live : p.IsLive)
    (takes : p.Takes b) : Text.isContinuation b = true := by
  have low := live.low
  have high := live.high
  rw [Partial.takes_iff] at takes
  simp only [Text.isContinuation, Bool.and_eq_true, decide_eq_true_eq, UInt8.le_iff_toNat_le,
    UInt8.reduceToNat]
  omega

/-- A byte leaves the machine outside of a character or inside one that can be finished. -/
theorem isLive_of_startWith (b : UInt8) : ∀ p ∈ (startWith b).2, p.IsLive := by
  intro p held
  rw [startWith] at held
  split at held
  · cases held
  · split at held
    next q lead =>
      cases held
      exact (Partial.ofLead?_eq_some_iff.mp lead).isLive
    · cases held

theorem Partial.IsLive.continueWith {p : Partial} (live : p.IsLive) (b : UInt8) :
    ∀ q ∈ (p.continueWith b).2, q.IsLive := by
  intro q held
  by_cases takes : p.Takes b
  · by_cases last : p.owed = 1
    · rw [p.continueWith_of_last takes last] at held
      cases held
    · rw [p.continueWith_of_next takes last] at held
      cases held
      exact live.next_isLive last takes
  · rw [p.continueWith_of_not_takes takes] at held
    exact isLive_of_startWith b q held

/-- Bytes in front of one that continues no character are cut as they are alone.  What is held
at the seam is malformed, whether the bytes end there or not. -/
theorem piecesFrom_append {first second : Bytes} {held : Option Partial}
    (live : ∀ p ∈ held, p.IsLive) (fresh : ∀ b ∈ second.head?, isContinuation b = false) :
    piecesFrom held (first ++ second) = piecesFrom held first ++ pieces second := by
  induction first generalizing held with
  | nil =>
      cases held with
      | none => rfl
      | some p =>
          cases second with
          | nil => rfl
          | cons b second =>
              have refused : ¬ p.Takes b := by
                intro takes
                have follows := (live p rfl).isContinuation takes
                rw [fresh b rfl] at follows
                cases follows
              have seam : piecesFrom (some p) (b :: second) =
                  .malformed p.seen :: pieces (b :: second) := by
                rw [piecesFrom, p.continueWith_of_not_takes refused]
                rfl
              exact seam
  | cons b first ih =>
      cases held with
      | none =>
          rw [List.cons_append, piecesFrom, ih (isLive_of_startWith b), piecesFrom,
            List.append_assoc]
      | some p =>
          rw [List.cons_append, piecesFrom, ih ((live p rfl).continueWith b), piecesFrom,
            List.append_assoc]

theorem pieces_append {first second : Bytes}
    (fresh : ∀ b ∈ second.head?, isContinuation b = false) :
    pieces (first ++ second) = pieces first ++ pieces second :=
  piecesFrom_append nofun fresh

theorem decode_append {first second : Bytes}
    (fresh : ∀ b ∈ second.head?, isContinuation b = false) :
    decode (first ++ second) = decode first ++ decode second := by
  rw [decode, pieces_append fresh, List.map_append]
  rfl

end Text

namespace Source

open Text

/-! ## Issues -/

/-- The issue with `n` bytes of text more in front. -/
def Issue.shift (n : Nat) (i : Issue) : Issue := { i with pos := n + i.pos }

/-- Pieces further on have their issues further on. -/
theorem malformedIssues_add {n pos : Nat} {ps : List Text.Piece}
    (short : n + pos + size (ps.map Text.Piece.toChar) ≤ Span.limit) :
    malformedIssues (n + pos) ps = (malformedIssues pos ps).map (Issue.shift n) := by
  induction ps generalizing pos with
  | nil => rfl
  | cons p ps ih =>
      rw [List.map_cons, size_cons] at short
      cases p with
      | char c =>
          rw [malformedIssues, malformedIssues, Nat.add_assoc, ih]
          simpa [Text.Piece.toChar, Nat.add_assoc] using short
      | malformed length =>
          have place : Span.saturate (n + pos) = n + Span.saturate pos := by
            rw [Span.saturate, Span.saturate]
            omega
          rw [malformedIssues, malformedIssues, Nat.add_assoc, ih, List.map_cons, Issue.shift,
            place]
          simpa [Text.Piece.toChar, Nat.add_assoc] using short

/-- Bytes in two parts are decoded part by part, if the second one begins with no continuation
byte. -/
theorem ofBytes_append (name : Text) {first second : Bytes}
    (fresh : ∀ b ∈ second.head?, isContinuation b = false)
    (short : (ofBytes name (first ++ second)).text.size ≤ Span.limit) :
    (ofBytes name (first ++ second)).text =
        (ofBytes name first).text ++ (ofBytes name second).text ∧
      (ofBytes name (first ++ second)).malformed =
        (ofBytes name first).malformed ++
          (ofBytes name second).malformed.map (Issue.shift (ofBytes name first).text.size) := by
  simp only [text_ofBytes, malformed_ofBytes, decode_append fresh, size_append] at short ⊢
  refine ⟨trivial, ?_⟩
  have further : malformedIssues (0 + size (decode first)) (pieces second) =
      (malformedIssues 0 (pieces second)).map (Issue.shift (size (decode first))) := by
    rw [Nat.add_comm]
    exact malformedIssues_add short
  rw [pieces_append fresh, malformedIssues_append, ← further]
  rfl

/-- A character that is cut short at the seam, by one that starts with the second part and is
itself cut short by the end. -/
theorem ofBytes_append_of_cutShort :
    (ofBytes [] ([0x41, 0xE2, 0x82] ++ [0xF0, 0x9F])).text = ['A', '\uFFFD', '\uFFFD'] ∧
      (ofBytes [] ([0x41, 0xE2, 0x82] ++ [0xF0, 0x9F])).malformed =
        (ofBytes [] [0x41, 0xE2, 0x82]).malformed ++
          (ofBytes [] [0xF0, 0x9F]).malformed.map (Issue.shift 4) := by
  have fresh : ∀ b ∈ ([0xF0, 0x9F] : Bytes).head?, isContinuation b = false := by
    rintro b ⟨⟩
    rfl
  have short : (ofBytes [] ([0x41, 0xE2, 0x82] ++ [0xF0, 0x9F])).text.size ≤ Span.limit := by
    decide +kernel
  have width : (ofBytes [] [0x41, 0xE2, 0x82]).text.size = 4 := by decide +kernel
  obtain ⟨text, issues⟩ := ofBytes_append [] fresh short
  rw [width] at issues
  exact ⟨text.trans (by decide +kernel), issues⟩

end Source

end TemplateLexer
