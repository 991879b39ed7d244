import Mathlib.Data.List.Basic
import TemplateLexer.Text.Align
import TemplateLexer.Text.Numeral

/-!
# Words

A *word* is made of visible ASCII characters, so there is no blank and no line feed in it.
The columns of a listing hold words with blanks around them, and a word can be found again
there.

*Separators.*  A text splits at the first occurrence of a character in one way
(`append_cons_inj`).  So a word at the left or at the right of its column is determined by the
column and what follows (`alignLeft_inj`, `alignRight_inj`).

*Numerals.*  A number in decimal is a word, and so is one in hexadecimal and a code point.
They are read back to the number (`readHexadecimal_map`), so they determine it.
-/

namespace TemplateLexer.Text

/-! ## Separators -/

/-- There is one way to split a list at the first occurrence of an element. -/
theorem append_cons_inj {α : Type} {a : α} {x y r s : List α} (outX : a ∉ x) (outY : a ∉ y)
    (same : x ++ a :: r = y ++ a :: s) : x = y ∧ r = s := by
  induction x generalizing y with
  | nil =>
      cases y with
      | nil => exact ⟨rfl, (List.cons.inj same).2⟩
      | cons b y => exact absurd ((List.cons.inj same).1 ▸ List.mem_cons_self) outY
  | cons b x ih =>
      cases y with
      | nil => exact absurd ((List.cons.inj same).1 ▸ List.mem_cons_self) outX
      | cons b' y =>
          obtain ⟨rfl, tails⟩ := List.cons.inj same
          obtain ⟨rfl, rest⟩ := ih (List.not_mem_of_not_mem_cons outX)
            (List.not_mem_of_not_mem_cons outY) tails
          exact ⟨rfl, rest⟩

/-! ## Words -/

/-- Whether a character is visible and in ASCII. -/
def isVisible (c : Char) : Bool := 0x20 < c.toNat && c.toNat < 0x7F

/-- Whether all characters of a text are visible. -/
def IsWord (t : Text) : Prop := ∀ c ∈ t, isVisible c = true

instance (t : Text) : Decidable (IsWord t) := List.decidableBAll (fun c => isVisible c = true) t

namespace IsWord

variable {t u : Text}

theorem append (first : IsWord t) (second : IsWord u) : IsWord (t ++ u) :=
  List.forall_mem_append.mpr ⟨first, second⟩

theorem cons {c : Char} (visible : isVisible c = true) (word : IsWord t) : IsWord (c :: t) :=
  List.forall_mem_cons.mpr ⟨visible, word⟩

/-- What is not visible is not in a word. -/
theorem not_mem {c : Char} (word : IsWord t) (hidden : isVisible c = false) : c ∉ t := by
  intro member
  rw [word c member] at hidden
  cases hidden

end IsWord

/-! ## Columns -/

/-- A word at the left of its column, by the column and what follows behind a blank. -/
theorem alignLeft_inj {width : Nat} {t u r s : Text} (word : IsWord t) (word' : IsWord u)
    (same : alignLeft width ' ' t ++ ' ' :: r = alignLeft width ' ' u ++ ' ' :: s) :
    t = u ∧ r = s := by
  have moved (v q : Text) : alignLeft width ' ' v ++ ' ' :: q =
      v ++ ' ' :: (filler width ' ' v ++ q) := by
    rw [alignLeft, List.append_assoc, filler, ← List.cons_append, ← List.replicate_succ,
      List.replicate_succ', List.append_assoc, List.singleton_append]
  rw [moved, moved] at same
  obtain ⟨rfl, rests⟩ := append_cons_inj (word.not_mem rfl) (word'.not_mem rfl) same
  exact ⟨rfl, List.append_cancel_left rests⟩

/-- A word at the right of its column, by the column and what follows behind a blank. -/
theorem alignRight_inj {width : Nat} {t u r s : Text} (word : IsWord t) (word' : IsWord u)
    (nonempty : t ≠ []) (nonempty' : u ≠ [])
    (same : alignRight width ' ' t ++ ' ' :: r = alignRight width ' ' u ++ ' ' :: s) :
    t = u ∧ r = s := by
  have dropped {v : Text} (q : Text) (word : IsWord v) (nonempty : v ≠ []) :
      (alignRight width ' ' v ++ ' ' :: q).dropWhile (· = ' ') = v ++ ' ' :: q := by
    obtain ⟨c, v, rfl⟩ := List.exists_cons_of_ne_nil nonempty
    have first : c ≠ ' ' := by
      rintro rfl
      exact word.not_mem rfl List.mem_cons_self
    rw [alignRight, filler, List.append_assoc, List.dropWhile_append_of_pos (by simp)]
    simp [first]
  have rests := congrArg (List.dropWhile (· = ' ')) same
  rw [dropped r word nonempty, dropped s word' nonempty'] at rests
  exact append_cons_inj (word.not_mem rfl) (word'.not_mem rfl) rests

/-! ## Digits -/

/-- The digits of a numeral are those of its base. -/
theorem exists_of_mem_toDigits {b n : Nat} {c : Char} (two : 1 < b)
    (member : c ∈ Nat.toDigits b n) : ∃ k < b, c = k.digitChar := by
  induction n using Nat.base_induction b two with
  | single m small =>
      rw [Nat.toDigits_of_lt_base small, List.mem_singleton] at member
      exact ⟨m, small, member⟩
  | digit m k small positive ih =>
      rw [← Nat.toDigits_append_toDigits two positive small, Nat.toDigits_of_lt_base small,
        List.mem_append, List.mem_singleton] at member
      obtain front | last := member
      · exact ih front
      · exact ⟨k, small, last⟩

theorem isWord_toDigits {b : Nat} (two : 1 < b) (most : b ≤ 16) (n : Nat) :
    IsWord (Nat.toDigits b n) := by
  have visible : ∀ k < 16, isVisible k.digitChar = true := by decide
  intro c member
  obtain ⟨k, small, rfl⟩ := exists_of_mem_toDigits two member
  exact visible k (Nat.lt_of_lt_of_le small most)

theorem isWord_decimal (n : Nat) : IsWord (decimal n) := isWord_toDigits (by decide) (by decide) n

theorem isWord_hexadecimal (n : Nat) : IsWord (hexadecimal n) :=
  isWord_toDigits (by decide) (by decide) n

theorem isWord_codePoint (c : Char) : IsWord (codePoint c) := by
  have visible : ∀ k < 16, isVisible k.digitChar.toUpper = true := by decide
  refine .cons rfl (.cons rfl (.append ?_ ?_))
  · intro d member
    rw [List.eq_of_mem_replicate member]
    rfl
  · intro d member
    obtain ⟨d, digit, rfl⟩ := List.mem_map.mp member
    obtain ⟨k, small, rfl⟩ := exists_of_mem_toDigits (by decide : 1 < 16) digit
    exact visible k small

/-! ## Reading numerals back -/

theorem decimal_inj {m n : Nat} (same : decimal m = decimal n) : m = n := by
  have values := congrArg (Nat.ofDigitChars 10 · 0) same
  simpa only [decimal, Nat.ofDigitChars_ten_toDigits] using values

/-- The value of a hexadecimal digit, in either case. -/
def digitValue (c : Char) : Nat :=
  if c.isDigit then c.toNat - '0'.toNat
  else if c.isUpper then c.toNat - 'A'.toNat + 10
  else c.toNat - 'a'.toNat + 10

/-- The number that hexadecimal digits write. -/
def readHexadecimal (t : Text) : Nat := t.foldl (fun n c => n * 16 + digitValue c) 0

/-- Hexadecimal digits are read back, in whatever way they are written. -/
theorem readHexadecimal_map (write : Char → Char)
    (reads : ∀ k < 16, digitValue (write k.digitChar) = k) (n : Nat) :
    readHexadecimal ((hexadecimal n).map write) = n := by
  induction n using Nat.base_induction 16 (by decide) with
  | single m small =>
      rw [hexadecimal, Nat.toDigits_of_lt_base small]
      simp [readHexadecimal, reads m small]
  | digit m k small positive ih =>
      rw [hexadecimal, ← Nat.toDigits_append_toDigits (by decide) positive small,
        Nat.toDigits_of_lt_base small, readHexadecimal, List.map_append, List.foldl_append,
        ← readHexadecimal, ← hexadecimal, ih]
      simp [reads k small, Nat.mul_comm]

theorem readHexadecimal_hexadecimal (n : Nat) : readHexadecimal (hexadecimal n) = n := by
  have read := readHexadecimal_map id (by decide) n
  rwa [List.map_id] at read

theorem readHexadecimal_zeros (k : Nat) (t : Text) :
    readHexadecimal (List.replicate k '0' ++ t) = readHexadecimal t := by
  induction k with
  | zero => rfl
  | succ k ih => exact ih

/-- A code point determines its character. -/
theorem codePoint_inj {c d : Char} (same : codePoint c = codePoint d) : c = d := by
  have read (e : Char) : readHexadecimal ((codePoint e).drop 2) = e.toNat :=
    (readHexadecimal_zeros _ _).trans (readHexadecimal_map Char.toUpper (by decide) _)
  apply Char.toNat_inj.mp
  rw [← read c, same, read d]

end TemplateLexer.Text
