import TemplateLexer.Text.Basic

/-!
# Alignment

A text is widened to a column by fill characters.  The width of a column is a
count of characters, and a text that is already as wide stays as it is.
-/

namespace TemplateLexer.Text

/-- As many fill characters as the text lacks to be `width` characters long. -/
def filler (width : Nat) (fill : Char) (t : Text) : Text :=
  List.replicate (width - t.length) fill

/-- The text at the left of its column. -/
def alignLeft (width : Nat) (fill : Char) (t : Text) : Text := t ++ filler width fill t

/-- The text at the right of its column. -/
def alignRight (width : Nat) (fill : Char) (t : Text) : Text := filler width fill t ++ t

/-- The text in the middle of its column.  An odd fill character goes right. -/
def alignCenter (width : Nat) (fill : Char) (t : Text) : Text :=
  let lacking := width - t.length
  List.replicate (lacking / 2) fill ++ t ++ List.replicate (lacking - lacking / 2) fill

example : alignRight 4 ' ' ['a', 'b'] = [' ', ' ', 'a', 'b'] := by decide

/-- The odd one of three goes right. -/
example : alignCenter 5 '*' ['a', 'b'] = ['*', 'a', 'b', '*', '*'] := by decide

example : alignLeft 1 ' ' ['a', 'b'] = ['a', 'b'] := by decide

end TemplateLexer.Text
