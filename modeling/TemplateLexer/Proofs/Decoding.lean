import TemplateLexer.Proofs.Check
import TemplateLexer.Source

/-!
# Decoding

The bytes of a source are valid text with flaws in it.  A flaw is a malformed sequence,
and valid text follows it.  So bytes are decomposed into a first text and a list of flaws
(`IsDecomposition`), and what is made of them is read off the decomposition.

* The text of the source has a replacement character for each flaw.
* The source has an issue for each flaw, at the place of that character.

A source is decoded in rounds, from one malformed sequence to the next.  Each round checks the
bytes that are left.  What comes of the rounds is what the machine reads in one go
(`Source.ofBytes_eq`), and the rest is about the pieces that the machine reads.

Bytes without a flaw are those of a text, and the text is unchanged.
-/

namespace TemplateLexer

open Text

/-- A malformed sequence of bytes and the valid text up to the next one. -/
structure Flaw where
  bad : Bytes
  after : Text

namespace Flaw

/-- The bytes of a text and of the flaws after it. -/
def bytes (first : Text) (flaws : List Flaw) : Bytes :=
  first.encode ++ flaws.flatMap fun f => f.bad ++ f.after.encode

/-- A text with the flaws after it replaced. -/
def text (first : Text) (flaws : List Flaw) : Text :=
  first ++ flaws.flatMap fun f => replacement :: f.after

/-- The issues of the flaws after a text.  Each has the size of what is in front of its
replacement character, and the number of its bytes. -/
def issues : Text → List Flaw → List Source.Issue
  | _, [] => []
  | before, f :: rest =>
      ⟨.malformed, Span.saturate before.size, Span.saturate f.bad.length⟩ ::
        issues (before ++ replacement :: f.after) rest

theorem bytes_cons (first : Text) (f : Flaw) (rest : List Flaw) :
    bytes first (f :: rest) = first.encode ++ (f.bad ++ bytes f.after rest) := by
  simp only [bytes, List.flatMap_cons, List.append_assoc]

theorem text_cons (first : Text) (f : Flaw) (rest : List Flaw) :
    text first (f :: rest) = first ++ replacement :: text f.after rest := by
  simp only [text, List.flatMap_cons, List.cons_append]

end Flaw

/-- Whether bytes are a text with flaws, each of them malformed where it stands. -/
structure IsDecomposition (bytes : Bytes) (first : Text) (flaws : List Flaw) : Prop where
  bytes_eq : bytes = Flaw.bytes first flaws
  malformed : ∀ before f after, flaws = before ++ f :: after →
    IsMalformed f.bad (Flaw.bytes f.after after)

namespace IsDecomposition

variable {bs : Bytes} {first : Text} {flaws : List Flaw}

theorem nil : IsDecomposition [] [] [] where
  bytes_eq := rfl
  malformed _ _ _ split :=
    absurd split.symm (List.append_ne_nil_of_right_ne_nil _ (List.cons_ne_nil _ _))

theorem char (c : Char) (rest : IsDecomposition bs first flaws) :
    IsDecomposition (String.utf8EncodeChar c ++ bs) (c :: first) flaws where
  bytes_eq := by rw [rest.bytes_eq, Flaw.bytes, Flaw.bytes, encode_cons, List.append_assoc]
  malformed := rest.malformed

theorem flaw {bad : Bytes} (malformed : IsMalformed bad bs)
    (rest : IsDecomposition bs first flaws) :
    IsDecomposition (bad ++ bs) [] (⟨bad, first⟩ :: flaws) where
  bytes_eq := by rw [Flaw.bytes_cons, encode_nil, List.nil_append, ← rest.bytes_eq]
  malformed before f after split := by
    cases before with
    | nil =>
        cases split
        exact rest.bytes_eq ▸ malformed
    | cons g before => exact rest.malformed before f after (List.cons.inj split).2

/-- The malformed sequences of a decomposition have one to three bytes. -/
theorem length_bad (parts : IsDecomposition bs first flaws) {f : Flaw} (member : f ∈ flaws) :
    1 ≤ f.bad.length ∧ f.bad.length ≤ 3 := by
  obtain ⟨before, after, split⟩ := List.append_of_mem member
  have malformed := parts.malformed before f after split
  exact ⟨List.length_pos_iff.mpr malformed.ne_nil, malformed.length_le⟩

end IsDecomposition

namespace Source

/-! ## The issues of pieces -/

/-- The issues of the malformed sequences among pieces that begin at an offset. -/
def malformedIssues : Nat → List Text.Piece → List Issue
  | _, [] => []
  | pos, .char c :: rest => malformedIssues (pos + c.utf8Size) rest
  | pos, .malformed length :: rest =>
      ⟨.malformed, Span.saturate pos, Span.saturate length⟩ ::
        malformedIssues (pos + Text.replacement.utf8Size) rest

theorem malformedIssues_map_char (pos : Nat) (t : Text) :
    malformedIssues pos (t.map .char) = [] := by
  induction t generalizing pos with
  | nil => rfl
  | cons c t ih => exact ih _

theorem malformedIssues_append (pos : Nat) (ps qs : List Text.Piece) :
    malformedIssues pos (ps ++ qs) =
      malformedIssues pos ps ++ malformedIssues (pos + size (ps.map Text.Piece.toChar)) qs := by
  induction ps generalizing pos with
  | nil => rfl
  | cons p ps ih =>
      cases p with
      | char c =>
          rw [List.cons_append, malformedIssues, ih, malformedIssues, Nat.add_assoc]
          rfl
      | malformed length =>
          rw [List.cons_append, malformedIssues, ih, malformedIssues, Nat.add_assoc,
            List.cons_append]
          rfl

end Source

/-- Bytes are decomposed as they are cut into pieces. -/
theorem Text.ReadsAs.exists_isDecomposition {bs : Bytes} {ps : List Text.Piece}
    (reads : ReadsAs bs ps) :
    ∃ first flaws, IsDecomposition bs first flaws ∧
      ps.map Text.Piece.toChar = Flaw.text first flaws ∧
      ∀ before : Text,
        Source.malformedIssues before.size ps = Flaw.issues (before ++ first) flaws := by
  induction reads with
  | nil => exact ⟨[], [], .nil, rfl, fun _ => rfl⟩
  | char c _ ih =>
      obtain ⟨first, flaws, parts, text, issues⟩ := ih
      refine ⟨c :: first, flaws, parts.char c, ?_, fun before => ?_⟩
      · rw [List.map_cons, text]
        rfl
      · have next := issues (before ++ [c])
        rw [size_append, size_cons, size_nil, Nat.add_zero] at next
        rw [Source.malformedIssues, next, List.append_assoc, List.singleton_append]
  | malformed malformed _ ih =>
      obtain ⟨first, flaws, parts, text, issues⟩ := ih
      refine ⟨[], ⟨_, first⟩ :: flaws, parts.flaw malformed, ?_, fun before => ?_⟩
      · rw [List.map_cons, text, Flaw.text_cons]
        rfl
      · have next := issues (before ++ [replacement])
        rw [size_append, size_cons, size_nil, Nat.add_zero] at next
        rw [Source.malformedIssues, next, Flaw.issues, List.append_nil, List.append_assoc,
          List.singleton_append]

namespace Source

/-! ## Decoding in one go -/

theorem decodeBehind_of_ok {rest : Bytes} {valid : Text} (passed : check rest = .ok valid)
    (text : Text) : decodeBehind text rest = (text ++ valid, []) := by
  rw [decodeBehind]
  split
  next checked =>
    rw [passed] at checked
    cases checked
    rfl
  next checked =>
    rw [passed] at checked
    cases checked

/-- Behind a malformed sequence the rest is decoded likewise. -/
theorem decodeBehind_of_error (text valid : Text) {bad after : Bytes} {e : Utf8Error}
    (failed : check (encode valid ++ (bad ++ after)) = .error e) (place : e.validUpTo = size valid)
    (length : e.errorLength?.getD (bad ++ after).length = bad.length) :
    decodeBehind text (encode valid ++ (bad ++ after)) =
      ((decodeBehind (text ++ valid ++ [replacement]) after).1,
        ⟨.malformed, Span.saturate (text ++ valid).size, Span.saturate bad.length⟩ ::
          (decodeBehind (text ++ valid ++ [replacement]) after).2) := by
  rw [decodeBehind]
  split
  next checked =>
    rw [failed] at checked
    cases checked
  next e' checked =>
    rw [failed] at checked
    cases checked
    simp only [place, take_size_encode, drop_size_encode, decode_encode, length,
      List.drop_left]

/-- The rounds of decoding find the pieces of the bytes, and their issues. -/
theorem decodeBehind_eq (text : Text) (rest : Bytes) :
    decodeBehind text rest = (text ++ decode rest, malformedIssues text.size (pieces rest)) := by
  induction measure : rest.length using Nat.strongRecOn generalizing text rest with
  | ind n ih =>
      have checks := checks_check rest
      cases found : check rest with
      | ok valid =>
          rw [decodeBehind_of_ok found]
          rw [found] at checks
          cases checks
          rw [decode_encode, pieces_encode, malformedIssues_map_char]
      | error e =>
          rw [found] at checks
          obtain ⟨valid, bad, after, rfl, malformed, place, length⟩ := checks.exists_isMalformed
          have nonempty := List.length_pos_iff.mpr malformed.ne_nil
          have shorter : after.length < n := by
            rw [← measure, List.length_append, List.length_append]
            omega
          rw [decodeBehind_of_error text valid found place length, ih _ shorter _ _ rfl,
            decode_of_isMalformed valid malformed, pieces_of_isMalformed valid malformed,
            malformedIssues_append, malformedIssues_map_char, map_toChar_char]
          simp [malformedIssues, Nat.add_assoc]

/-- Bytes are decoded in one go, as by the machine. -/
theorem ofBytes_eq (name : Text) (bytes : Bytes) :
    ofBytes name bytes =
      ⟨name, decode bytes, markIssues bytes ++ malformedIssues 0 (pieces bytes)⟩ := by
  rw [ofBytes, decodeBehind_eq]
  rfl

theorem text_ofBytes (name : Text) (bytes : Bytes) : (ofBytes name bytes).text = decode bytes := by
  rw [ofBytes_eq]

/-! ## The issues of a source -/

/-- The issues that are malformed sequences. -/
def malformed (s : Source) : List Issue := s.issues.filter (·.kind = .malformed)

theorem kind_of_mem_malformedIssues {pos : Nat} {ps : List Text.Piece} {i : Issue}
    (member : i ∈ malformedIssues pos ps) : i.kind = .malformed := by
  induction ps generalizing pos with
  | nil => cases member
  | cons p ps ih =>
      cases p with
      | char c => exact ih member
      | malformed length =>
          obtain rfl | member := List.mem_cons.mp member
          · rfl
          · exact ih member

/-- A byte order mark is no malformed sequence. -/
theorem filter_markIssues (bytes : Bytes) :
    (markIssues bytes).filter (·.kind = .malformed) = [] := by
  unfold markIssues
  split <;> rfl

theorem malformed_ofBytes (name : Text) (bytes : Bytes) :
    (ofBytes name bytes).malformed = malformedIssues 0 (pieces bytes) := by
  have others : (malformedIssues 0 (pieces bytes)).filter (·.kind = .malformed) = _ :=
    List.filter_eq_self.mpr fun _ member => by simpa using kind_of_mem_malformedIssues member
  rw [malformed, ofBytes_eq, List.filter_append, filter_markIssues, others, List.nil_append]

/-- The source of the bytes of a text is that of the text. -/
theorem ofBytes_encode (name t : Text) : ofBytes name t.encode = ofText name t := by
  rw [ofBytes_eq, ofText, decode_encode, pieces_encode, malformedIssues_map_char, List.append_nil]

/-- The text and the issues of a source are those of a decomposition of its bytes into
valid text and malformed sequences.  There is no issue of a malformed sequence if and only
if the bytes are those of a text, and the text is then unchanged. -/
theorem ofBytes_decomposes (name : Text) (bytes : Bytes) :
    (∃ first flaws, IsDecomposition bytes first flaws ∧
      (∀ f ∈ flaws, 1 ≤ f.bad.length ∧ f.bad.length ≤ 3) ∧
      (ofBytes name bytes).text = Flaw.text first flaws ∧
      (ofBytes name bytes).malformed = Flaw.issues first flaws) ∧
    ((ofBytes name bytes).malformed = [] ↔ ∃ t : Text, bytes = t.encode) ∧
    ∀ t : Text, (ofBytes name t.encode).text = t := by
  obtain ⟨first, flaws, parts, text, issues⟩ := (readsAs_pieces bytes).exists_isDecomposition
  have decoded : (ofBytes name bytes).text = Flaw.text first flaws :=
    (text_ofBytes name bytes).trans text
  have found : (ofBytes name bytes).malformed = Flaw.issues first flaws :=
    (malformed_ofBytes name bytes).trans (issues [])
  refine ⟨⟨first, flaws, parts, fun f member => parts.length_bad member, decoded, found⟩, ?_,
    fun t => (text_ofBytes name _).trans (decode_encode t)⟩
  constructor
  · intro none
    cases flaws with
    | nil => exact ⟨first, parts.bytes_eq.trans (List.append_nil _)⟩
    | cons f rest =>
        rw [found] at none
        cases none
  · rintro ⟨t, rfl⟩
    rw [malformed_ofBytes, pieces_encode, malformedIssues_map_char]

/-- The second issue is at the second replacement character. -/
example : (ofBytes [] [0x41, 0xE2, 0x82, 0x42, 0xF0, 0x9F]).malformed =
    [⟨.malformed, 1, 2⟩, ⟨.malformed, 5, 2⟩] := by decide +kernel

end Source

end TemplateLexer
