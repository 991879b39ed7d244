import TemplateLexer.Proofs.Word
import TemplateLexer.Text.Quoted

/-!
# Quoted texts are read back

A character between quotation marks is written in one of three forms (`Escaped`).  A
backslash starts two of them and is no form by itself, and a quotation mark starts none.  So
a character can be read off the front of a text (`unescape?`), whatever follows it.

Therefore a quoted text ends at its closing quotation mark, and it determines the text
(`quoted_append_inj`).  It has no line feed in it, since the written form of that character
has none (`newline_not_mem_quoted`).
-/

namespace TemplateLexer.Text

/-! ## Written forms -/

/-- The characters that are written as a backslash and a letter, with the letters. -/
def letters : List (Char × Char) :=
  [('\x00', '0'), ('\t', 't'), ('\n', 'n'), ('\r', 'r'), ('"', '"'), ('\\', '\\')]

/-- The written forms of a character. -/
inductive Escaped : Char → Text → Prop where
  | letter {c letter : Char} (listed : (c, letter) ∈ letters) : Escaped c ['\\', letter]
  | number (c : Char) : Escaped c (['\\', 'u', '{'] ++ hexadecimal c.toNat ++ ['}'])
  | plain {c : Char} (unlisted : c ≠ '"' ∧ c ≠ '\\' ∧ c ≠ '\n') : Escaped c [c]

theorem escaped_escape (c : Char) : Escaped c (escape c) := by
  unfold escape
  split
  case h_7 notNull notTab notFeed notReturn notQuote notBackslash =>
    split
    · exact .number c
    · exact .plain ⟨notQuote, notBackslash, notFeed⟩
  all_goals exact .letter (by decide)

/-- The character at the front of a text in its written form, and what follows it. -/
def unescape? : Text → Option (Char × Text)
  | [] => none
  | '\\' :: 'u' :: '{' :: t =>
      let digits := t.takeWhile (· ≠ '}')
      some (Char.ofNat (readHexadecimal digits), t.drop (digits.length + 1))
  | '\\' :: letter :: t => (letters.find? (·.2 = letter)).map fun listed => (listed.1, t)
  | c :: t => some (c, t)

/-- No digit is a closing brace. -/
theorem closingBrace_not_mem_hexadecimal (n : Nat) : '}' ∉ hexadecimal n := by
  have others : ∀ k < 16, '}' ≠ k.digitChar := by decide
  intro member
  obtain ⟨k, small, same⟩ := exists_of_mem_toDigits (by decide) member
  exact others k small same

/-- A character is read back from its written form. -/
theorem Escaped.unescape?_append {c : Char} {written : Text} (escaped : Escaped c written)
    (t : Text) : Text.unescape? (written ++ t) = some (c, t) := by
  cases escaped with
  | letter listed =>
      simp only [letters, List.mem_cons, Prod.mk.injEq, List.not_mem_nil, or_false] at listed
      rcases listed with ⟨rfl, rfl⟩ | ⟨rfl, rfl⟩ | ⟨rfl, rfl⟩ | ⟨rfl, rfl⟩ | ⟨rfl, rfl⟩ |
        ⟨rfl, rfl⟩
      all_goals rfl
  | number =>
      have opened : ['\\', 'u', '{'] ++ hexadecimal c.toNat ++ ['}'] ++ t =
          '\\' :: 'u' :: '{' :: (hexadecimal c.toNat ++ '}' :: t) := by simp
      have digits : (hexadecimal c.toNat ++ '}' :: t).takeWhile (· ≠ '}') =
          hexadecimal c.toNat := by
        have inside : ∀ d ∈ hexadecimal c.toNat, decide (d ≠ '}') = true := by
          intro d member
          exact decide_eq_true (ne_of_mem_of_not_mem member (closingBrace_not_mem_hexadecimal _))
        rw [List.takeWhile_append_of_pos inside]
        simp
      rw [opened, Text.unescape?, digits, readHexadecimal_hexadecimal, Char.ofNat_toNat,
        List.drop_length_add_append]
      rfl
  | plain unlisted =>
      obtain ⟨-, notBackslash, -⟩ := unlisted
      unfold Text.unescape?
      split <;> simp_all

/-- A written form starts with something other than a quotation mark. -/
theorem Escaped.exists_cons {c : Char} {written : Text} (escaped : Escaped c written) :
    ∃ first more, written = first :: more ∧ first ≠ '"' := by
  cases escaped with
  | letter | number => exact ⟨_, _, rfl, by decide⟩
  | plain unlisted => exact ⟨c, [], rfl, unlisted.1⟩

/-- There is no line feed in a written form. -/
theorem Escaped.newline_not_mem {c : Char} {written : Text} (escaped : Escaped c written) :
    '\n' ∉ written := by
  cases escaped with
  | @letter letter listed =>
      have others : ∀ pair ∈ letters, '\n' ∉ ['\\', pair.2] := by decide
      exact others _ listed
  | number =>
      have digits : '\n' ∉ hexadecimal c.toNat := (isWord_hexadecimal _).not_mem rfl
      simp [digits]
  | plain unlisted => simpa using unlisted.2.2.symm

/-! ## Between quotation marks -/

/-- A quoted text does not end before its closing quotation mark. -/
theorem quote_ne_escape_append (c : Char) (t u : Text) : '"' :: t ≠ escape c ++ u := by
  obtain ⟨first, more, written, other⟩ := (escaped_escape c).exists_cons
  rw [written]
  intro same
  exact other (List.cons.inj same).1.symm

/-- What is between quotation marks and what follows them are determined together. -/
theorem escape_append_inj {t u r s : Text}
    (same : t.flatMap escape ++ '"' :: r = u.flatMap escape ++ '"' :: s) : t = u ∧ r = s := by
  induction t generalizing u with
  | nil =>
      cases u with
      | nil => exact ⟨rfl, (List.cons.inj same).2⟩
      | cons d u =>
          rw [List.flatMap_cons, List.append_assoc] at same
          exact absurd same (quote_ne_escape_append d _ _)
  | cons c t ih =>
      rw [List.flatMap_cons, List.append_assoc] at same
      cases u with
      | nil => exact absurd same.symm (quote_ne_escape_append c _ _)
      | cons d u =>
          rw [List.flatMap_cons, List.append_assoc] at same
          have fronts := congrArg unescape? same
          rw [(escaped_escape c).unescape?_append, (escaped_escape d).unescape?_append,
            Option.some.injEq, Prod.mk.injEq] at fronts
          obtain ⟨rfl, rests⟩ := fronts
          obtain ⟨rfl, after⟩ := ih rests
          exact ⟨rfl, after⟩

/-- A quoted text and what follows it are determined together. -/
theorem quoted_append_inj {t u r s : Text} (same : quoted t ++ r = quoted u ++ s) :
    t = u ∧ r = s := by
  have inner (v q : Text) : quoted v ++ q = '"' :: (v.flatMap escape ++ '"' :: q) := by
    simp [quoted]
  rw [inner, inner, List.cons_inj_right] at same
  exact escape_append_inj same

theorem newline_not_mem_quoted (t : Text) : '\n' ∉ quoted t := by
  have inside : '\n' ∉ t.flatMap escape := by
    intro member
    obtain ⟨c, -, written⟩ := List.mem_flatMap.mp member
    exact (escaped_escape c).newline_not_mem written
  simp [quoted, inside]

end TemplateLexer.Text
