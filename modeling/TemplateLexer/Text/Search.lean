import TemplateLexer.Text.Utf8

/-!
# Search

A text is searched for by its bytes.  The answer is the offset of the leftmost
place where its bytes stand.  The empty text stands everywhere.
-/

namespace TemplateLexer

/-- The offset of the leftmost occurrence of `pattern`. -/
def Bytes.offsetOf? (pattern : Bytes) : Bytes → Option Nat
  | [] => if pattern.isEmpty then some 0 else none
  | b :: bs =>
      if pattern.isPrefixOf (b :: bs) then some 0 else (Bytes.offsetOf? pattern bs).map (· + 1)

/-- The byte offset of the leftmost occurrence of `pattern` in a text. -/
def Text.offsetOf? (pattern t : Text) : Option Nat := Bytes.offsetOf? (encode pattern) (encode t)

end TemplateLexer
