import TemplateLexer.Text.Basic

/-!
# UTF-8

A text is written as the bytes of its characters in order.  Bytes are read back
into *pieces*.  A piece is a character or a malformed sequence.

A malformed sequence is as long as it can be.  It is the longest run of bytes
that starts a well-formed character and does not finish it, or a single byte if
no character starts that way.  The reader is a machine that takes one byte at a
time.  Between bytes it is at the start of a character, or inside one and then
holds a `Partial`: what was read of the character, and the range of the next byte.
The range is narrower than that of a continuation byte after some first bytes.
It leaves out the forms that are longer than needed, the surrogates and the
numbers above U+10FFFF.

A byte that cannot continue a character ends a malformed sequence and is then
read again as the start of a piece.  The end of the bytes ends it too.
-/

namespace TemplateLexer

/-- A sequence of bytes. -/
abbrev Bytes := List UInt8

namespace Text

/-! ## Writing -/

/-- The bytes of a text. -/
def encode (t : Text) : Bytes := t.flatMap String.utf8EncodeChar

@[simp] theorem encode_nil : encode [] = [] := rfl

@[simp] theorem encode_append (t u : Text) : encode (t ++ u) = encode t ++ encode u :=
  List.flatMap_append

/-- A text has as many bytes as its size says. -/
theorem length_encode (t : Text) : (encode t).length = size t := by
  induction t with
  | nil => rfl
  | cons c t ih => simp_all [encode, List.flatMap_cons]

/-! ## Reading -/

/-- A well-formed character or a malformed sequence of bytes. -/
inductive Piece where
  /-- A character. -/
  | char (c : Char)
  /-- As many bytes that form no character. -/
  | malformed (length : Nat)
deriving DecidableEq, Repr

/-- A character of which some bytes were read and some are still owed. -/
structure Partial where
  /-- How many bytes were read. -/
  seen : Nat
  /-- The bits read so far. -/
  value : Nat
  /-- How many bytes are still owed. -/
  owed : Nat
  /-- The least byte that may come next. -/
  low : UInt8
  /-- The greatest byte that may come next. -/
  high : UInt8
deriving DecidableEq, Repr

/-- The character that a byte of more than seven bits starts, if it starts one. -/
def Partial.ofLead? (b : UInt8) : Option Partial :=
  if b < 0xC2 then none
  else if b < 0xE0 then some ⟨1, b.toNat - 0xC0, 1, 0x80, 0xBF⟩
  else if b < 0xF0 then
    some ⟨1, b.toNat - 0xE0, 2,
      if b = 0xE0 then 0xA0 else 0x80, if b = 0xED then 0x9F else 0xBF⟩
  else if b < 0xF5 then
    some ⟨1, b.toNat - 0xF0, 3,
      if b = 0xF0 then 0x90 else 0x80, if b = 0xF4 then 0x8F else 0xBF⟩
  else none

/-- Reads a byte at the start of a character. -/
def startWith (b : UInt8) : List Piece × Option Partial :=
  if b < 0x80 then ([.char (Char.ofNat b.toNat)], none)
  else match Partial.ofLead? b with
    | some p => ([], some p)
    | none => ([.malformed 1], none)

/-- Reads a byte inside a character. -/
def Partial.continueWith (p : Partial) (b : UInt8) : List Piece × Option Partial :=
  if p.low ≤ b ∧ b ≤ p.high then
    let value := p.value * 64 + (b.toNat - 0x80)
    if p.owed = 1 then ([.char (Char.ofNat value)], none)
    else ([], some ⟨p.seen + 1, value, p.owed - 1, 0x80, 0xBF⟩)
  else
    let (pieces, next) := startWith b
    (.malformed p.seen :: pieces, next)

/-- The pieces of the bytes that follow what was read of a character. -/
def piecesFrom : Option Partial → Bytes → List Piece
  | none, [] => []
  | some p, [] => [.malformed p.seen]
  | none, b :: bs => (startWith b).1 ++ piecesFrom (startWith b).2 bs
  | some p, b :: bs => (p.continueWith b).1 ++ piecesFrom (p.continueWith b).2 bs

/-- The pieces of a sequence of bytes. -/
def pieces (bs : Bytes) : List Piece := piecesFrom none bs

/-- The character that takes the place of a malformed sequence. -/
def replacement : Char := '\uFFFD'

/-- The character that a piece stands for. -/
def Piece.toChar : Piece → Char
  | .char c => c
  | .malformed _ => replacement

/-- The text of a sequence of bytes, with malformed sequences replaced. -/
def decode (bs : Bytes) : Text := (pieces bs).map Piece.toChar

/-! ## Tests -/

/-- A sequence that is cut short by another character, and one cut short by the end. -/
example : pieces [0xE2, 0x82, 0x41, 0xF0, 0x9F, 0x98] =
    [.malformed 2, .char 'A', .malformed 3] := by decide

/-- A longer form of a character is no start of one, and neither is a surrogate. -/
example : pieces [0xC1, 0xBF] = [.malformed 1, .malformed 1] := by decide

example : pieces [0xED, 0xA0, 0x80] = [.malformed 1, .malformed 1, .malformed 1] := by decide

example : decode (encode ['a', 'é', '世', '😀']) = ['a', 'é', '世', '😀'] := by decide +kernel

end Text

end TemplateLexer
