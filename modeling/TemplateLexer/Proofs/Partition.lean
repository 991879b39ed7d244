import TemplateLexer.Proofs.Run

/-!
# Tokens partition their text

The tokens of a text lie in it one after the other, each at its span and with its text.
Between two tokens of a block there may be blanks.  Nothing else is left out, and nothing
is in two tokens.

A *piece* is a token with the blanks before it.  `Tiles` says where in a text some pieces
lie.  The invariant of a run is that the pieces made so far, and the blanks skipped after
the last of them, are what was taken.  A step that goes on either makes one piece, or adds
to the blanks (`Moves.tile`).
-/

namespace TemplateLexer

open Text

/-! ## Pieces -/

/-- A token with the blanks before it. -/
structure Piece where
  gap : Text
  token : Token

/-- The text that some pieces make up. -/
def textOfPieces (pieces : List Piece) : Text := pieces.flatMap fun p => p.gap ++ p.token.text

@[simp] theorem textOfPieces_nil : textOfPieces [] = [] := rfl

@[simp] theorem textOfPieces_cons (p : Piece) (pieces : List Piece) :
    textOfPieces (p :: pieces) = p.gap ++ p.token.text ++ textOfPieces pieces := rfl

/-- Whether a block is open after a token, if it is known whether one was before. -/
def Token.inBlockAfter (t : Token) (inBlock : Bool) : Bool :=
  match t.kind with
  | .leftDelimiter => true
  | .rightDelimiter => false
  | .error | .endOfInput | .number | .text => inBlock

/-- Pieces that lie in a text one after the other, from an offset on and up to another.
The flags tell whether a block is open at these offsets. -/
inductive Tiles (text : Text) : Bool → Nat → List Piece → Bool → Nat → Prop where
  | nil {inBlock : Bool} {upTo : Nat} : Tiles text inBlock upTo [] inBlock upTo
  | cons {inBlock inBlock' : Bool} {upTo start stop upTo' : Nat} {gap : Text} {token : Token}
      {pieces : List Piece} (ordered : upTo ≤ start) (nonempty : start < stop)
      (inText : stop ≤ text.size) (skipped : text.slice? upTo start = some gap)
      (blank : IsGap gap) (inside : gap ≠ [] → inBlock = true) (goes : token.endsRun = false)
      (span : token.span = Span.between start stop)
      (value : text.slice? start stop = some token.text)
      (later : Tiles text (token.inBlockAfter inBlock) stop pieces inBlock' upTo') :
      Tiles text inBlock upTo (⟨gap, token⟩ :: pieces) inBlock' upTo'

/-- The last token of a text, after blanks and in front of what is left.  It is the end of
input outside of all blocks, or it is the error of a rest that offends. -/
inductive Ends (text : Text) : Bool → Nat → Text → Text → Token → Prop where
  | endOfInput :
      Ends text false text.size [] []
        { kind := .endOfInput, span := Span.point text.size, text := [] }
  | error {upTo start : Nat} {gap bad after : Text} {cause : LexError.Cause}
      (skipped : text.slice? upTo start = some gap) (blank : IsGap gap)
      (offends : Offends cause bad after) :
      Ends text true upTo gap (bad ++ after)
        (.ofError ⟨cause, Span.between start (start + size bad)⟩)

/-- Some tokens partition the rest of a text, behind what was read of it. -/
def Partitions (tokens : List Token) (inBlock : Bool) (read rest : Text) : Prop :=
  ∃ pieces gap after inBlock' last,
    tokens = pieces.map (·.token) ++ [last] ∧
    rest = textOfPieces pieces ++ (gap ++ after) ∧
    Tiles (read ++ rest) inBlock (size read) pieces inBlock' (size (read ++ textOfPieces pieces)) ∧
    Ends (read ++ rest) inBlock' (size (read ++ textOfPieces pieces)) gap after last

variable {isOpen : Bool} {tokens : List Token} {read gap rest : Text}

theorem Partitions.endOfInput : Partitions [.ofEnd (size read)] false read [] := by
  have ending : Ends read false (size read) [] [] (.ofEnd (size read)) := .endOfInput
  exact ⟨[], [], [], false, _, rfl, rfl, by simpa using .nil, by simpa using ending⟩

theorem Partitions.error {cause : LexError.Cause} {bad after : Text} (blank : IsGap gap)
    (offends : Offends cause bad after) :
    Partitions
      [.ofError ⟨cause, Span.between (size (read ++ gap)) (size (read ++ gap ++ bad))⟩] true read
      (gap ++ (bad ++ after)) := by
  have skipped : slice? (read ++ (gap ++ (bad ++ after))) (size read) (size (read ++ gap)) =
      some gap := by
    rw [← List.append_assoc, size_append, slice?_append]
  have ending := Ends.error skipped blank offends
  rw [← size_append] at ending
  exact ⟨[], gap, bad ++ after, true, _, rfl, rfl, by simpa using .nil, by simpa using ending⟩

/-- A token in front of the others, of a part that is not empty, after blanks. -/
theorem Partitions.cons {kind : TokenKind} {t : Text} (blank : IsGap gap)
    (inside : gap ≠ [] → isOpen = true) (nonempty : t ≠ []) (goes : kind.endsRun = false)
    (later : Partitions tokens ((Token.piece kind (read ++ gap) t).inBlockAfter isOpen)
      (read ++ gap ++ t) rest) :
    Partitions (.piece kind (read ++ gap) t :: tokens) isOpen read (gap ++ (t ++ rest)) := by
  obtain ⟨pieces, gap', after, isOpen', last, rfl, rfl, tiles, ends⟩ := later
  have whole : read ++ gap ++ t ++ textOfPieces pieces =
      read ++ textOfPieces (⟨gap, .piece kind (read ++ gap) t⟩ :: pieces) := by
    simp [Token.piece]
  rw [whole] at tiles ends
  have skipped : slice? (read ++ gap ++ t ++ (textOfPieces pieces ++ (gap' ++ after))) (size read)
      (size (read ++ gap)) = some gap := by
    rw [List.append_assoc (read ++ gap), size_append, slice?_append]
  have value : slice? (read ++ gap ++ t ++ (textOfPieces pieces ++ (gap' ++ after)))
      (size (read ++ gap)) (size (read ++ gap ++ t)) = some t := by
    rw [size_append (read ++ gap), slice?_append]
  have wide : size (read ++ gap) < size (read ++ gap ++ t) := by
    rw [size_append (read ++ gap)]
    exact Nat.lt_add_of_pos_right (Reader.size_pos nonempty)
  have goes' : (Token.piece kind (read ++ gap) t).endsRun = false := goes
  have tiles' := Tiles.cons (by simp) wide (by simp) skipped blank inside goes' rfl value tiles
  refine ⟨⟨gap, .piece kind (read ++ gap) t⟩ :: pieces, gap', after, isOpen', last, rfl, ?_, ?_, ?_⟩
  · simp [Token.piece]
  · simpa using tiles'
  · simpa using ends

/-! ## Steps -/

/-- Whether a mode is one of a block that is open. -/
def Mode.inBlock : Mode → Bool
  | text | opening => false
  | block | closing | number => true

variable {taken moved : Text} {mode next : Mode} {width? : Option Nat}
  {visits : List Visit}

/-- A step that goes on makes a token of all that it moves over, or it moves over blanks in
a block. -/
theorem Moves.tile (moves : Moves taken mode moved rest tokens next) :
    (∃ kind, tokens = [.piece kind taken moved] ∧ moved ≠ [] ∧ kind.endsRun = false ∧
      next.inBlock = (Token.piece kind taken moved).inBlockAfter mode.inBlock) ∨
    (tokens = [] ∧ IsGap moved ∧ next.inBlock = mode.inBlock ∧
      (moved ≠ [] → mode.inBlock = true)) := by
  cases moves with
  | lead lead u =>
      by_cases empty : moved = []
      · subst empty
        exact Or.inr ⟨rfl, by simp [IsGap], rfl, by simp⟩
      · exact Or.inl ⟨.text, by rw [textPieces, if_neg empty], empty, rfl, rfl⟩
  | opening => exact Or.inl ⟨.leftDelimiter, rfl, by decide, rfl, rfl⟩
  | toClosing blank | toNumber blank => exact Or.inr ⟨rfl, blank, rfl, fun _ => rfl⟩
  | closing => exact Or.inl ⟨.rightDelimiter, rfl, by decide, rfl, rfl⟩
  | number numeral => exact Or.inl ⟨.number, rfl, numeral.1, rfl, rfl⟩

/-- The tokens of the step that ends a run partition the blanks before it and the rest. -/
theorem Halts.partitions {s : Step} (halts : Halts (read ++ gap) mode rest s) (blank : IsGap gap)
    (inside : gap ≠ [] → mode.inBlock = true) :
    Partitions s.tokens mode.inBlock read (gap ++ rest) := by
  cases halts with
  | last plain =>
      have noGap : gap = [] := by
        by_contra nonempty
        cases inside nonempty
      subst noGap
      rw [List.append_nil, List.nil_append]
      have ending : Partitions [.ofEnd (size (read ++ rest))] false (read ++ rest) [] :=
        .endOfInput
      by_cases empty : rest = []
      · subst empty
        simpa [textPieces, Mode.inBlock] using ending
      · rw [← List.append_nil read] at ending
        have pieces : Partitions (.piece .text (read ++ []) rest :: _) Mode.text.inBlock read
            ([] ++ (rest ++ [])) := .cons blank inside empty rfl ending
        simpa [textPieces, empty] using pieces
  | @offence gap' blank' cause bad after offends =>
      have bothBlank : IsGap (gap ++ gap') := List.forall_mem_append.mpr ⟨blank, blank'⟩
      have ending : Partitions _ true read (gap ++ gap' ++ (bad ++ after)) :=
        .error bothBlank offends
      simpa [Mode.inBlock] using ending

/-- The tokens of a run partition the blanks before it and the rest. -/
theorem Run.partitions (run : Run mode taken rest width? visits) (split : taken = read ++ gap)
    (blank : IsGap gap) (inside : gap ≠ [] → mode.inBlock = true) :
    Partitions (tokensOfVisits visits) mode.inBlock read (gap ++ rest) := by
  induction run generalizing read gap with
  | halt halts =>
      subst split
      rw [tokensOfVisits_cons, tokensOfVisits_nil, List.append_nil]
      exact halts.partitions blank inside
  | @go mode next taken moved rest width? tokens visits moves run ih =>
      subst split
      rcases moves.tile with ⟨kind, rfl, nonempty, goes, after⟩ | ⟨rfl, blank', same, inside'⟩
      · have later := ih (List.append_nil _).symm (List.forall_mem_nil _) (absurd rfl)
        rw [after, List.nil_append] at later
        exact .cons blank inside nonempty goes later
      · have bothBlank : IsGap (gap ++ moved) := List.forall_mem_append.mpr ⟨blank, blank'⟩
        have bothInside : gap ++ moved ≠ [] → next.inBlock = true := by
          intro nonempty
          rw [same]
          by_cases empty : gap = []
          · subst empty
            exact inside' nonempty
          · exact inside empty
        have later := ih (List.append_assoc read gap moved) bothBlank bothInside
        rw [same, List.append_assoc] at later
        exact later

/-! ## The tokens of a text -/

/-- The pieces of a text, the blanks before its last token and what is left make it up. -/
theorem lex_partitions (name : Text) {text : Text} (fits : text.Fits) :
    ∃ pieces gap after isOpen last,
      lex name text = .ok (pieces.map (·.token) ++ [last]) ∧
      text = textOfPieces pieces ++ (gap ++ after) ∧
      Tiles text false 0 pieces isOpen (size (textOfPieces pieces)) ∧
      Ends text isOpen (size (textOfPieces pieces)) gap after last := by
  obtain ⟨visits, run⟩ := exists_run_of_text text
  have nothing : IsGap [] := List.forall_mem_nil _
  obtain ⟨pieces, gap, after, isOpen, last, made, parts, tiles, ends⟩ :=
    run.partitions (List.append_nil []).symm nothing (absurd rfl)
  refine ⟨pieces, gap, after, isOpen, last, ?_, parts, tiles, ends⟩
  rw [lex_of_run name fits run, made]

/-- The blanks of a block are no part of a token. -/
theorem lex_partitions_of_blanks :
    ∃ pieces gap after isOpen last,
      lex [] ['{', '{', ' ', '1', '\t', '}', '}', 'é'] = .ok (pieces.map (·.token) ++ [last]) ∧
      ['{', '{', ' ', '1', '\t', '}', '}', 'é'] = textOfPieces pieces ++ (gap ++ after) ∧
      Tiles ['{', '{', ' ', '1', '\t', '}', '}', 'é'] false 0 pieces isOpen
        (size (textOfPieces pieces)) ∧
      Ends ['{', '{', ' ', '1', '\t', '}', '}', 'é'] isOpen (size (textOfPieces pieces)) gap after
        last :=
  lex_partitions [] (by decide)

end TemplateLexer
