import TemplateLexer.Text.Basic

/-!
# Numerals

Numbers are written in decimal, or in hexadecimal for a code point.  Neither
form has leading zeros, except where a least number of digits is asked for.

A number is read from ASCII digits after an optional plus sign.  There is at
least one digit, leading zeros are allowed, and a number above the given bound
is not read.
-/

namespace TemplateLexer.Text

/-- A number in decimal. -/
def decimal (n : Nat) : Text := Nat.toDigits 10 n

/-- A number in hexadecimal, with lower-case letters. -/
def hexadecimal (n : Nat) : Text := Nat.toDigits 16 n

/-- A code point as `U+` and at least four upper-case hexadecimal digits. -/
def codePoint (c : Char) : Text :=
  let digits := (hexadecimal c.toNat).map Char.toUpper
  'U' :: '+' :: (List.replicate (4 - digits.length) '0' ++ digits)

/-- The digits of a numeral, which follow an optional plus sign. -/
def withoutPlus : Text → Text
  | '+' :: t => t
  | t => t

/-- The number that a numeral writes, if it is one and at most `bound`. -/
def readDecimal? (bound : Nat) (t : Text) : Option Nat :=
  let digits := withoutPlus t
  if digits ≠ [] ∧ digits.all Char.isDigit ∧ Nat.ofDigitChars 10 digits 0 ≤ bound then
    some (Nat.ofDigitChars 10 digits 0)
  else none

/-! ## Tests -/

example : codePoint 'x' = "U+0078".toList := by decide +kernel

example : codePoint '😀' = "U+1F600".toList := by decide +kernel

example : readDecimal? 9 "+007".toList = some 7 := by decide +kernel

/-- A number above the bound, two signs, and no digit. -/
example : [['1', '0'], ['+', '+', '1'], ['+'], []].map (readDecimal? 9) =
    [none, none, none, none] := by decide +kernel

end TemplateLexer.Text
