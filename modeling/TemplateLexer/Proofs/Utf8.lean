import Mathlib.Algebra.Ring.Nat
import Mathlib.Tactic.SplitIfs
import TemplateLexer.Text.Utf8

/-!
# The bytes of a character

A character is written as a first byte and up to three continuation bytes.  Here the
machine that reads them back is compared with the writing of a character, byte by byte.

Between two bytes of a character the machine holds a `Partial`.  What it means is said
in two ways.  `Partial.Finishes` follows the machine and says which bytes finish which
character.  `Partial.finishes_iff` says the same by numbers.  The bytes are the last six
bits of the number, and then the six before them, and so on, and what is left of the
number is in the range of the next byte.  First bytes have the same form, so what
follows a first byte is what finishes the `Partial` that it starts
(`utf8EncodeChar_eq_cons_iff`).

`Partial.Holds` is the invariant of the machine inside a character.  Its second half is
that every byte which is taken leads to a character (`Partial.IsLive`).  So the machine
refuses a byte as soon as no character goes on with it.
-/

namespace TemplateLexer.Text

/-! ## Numbers -/

/-- Characters have the numbers of scalar values. -/
theorem toNat_isScalar (c : Char) :
    c.toNat < 0xD800 ∨ 0xDFFF < c.toNat ∧ c.toNat < 0x110000 := c.valid

theorem toNat_ofNat_of_isValidChar {n : Nat} (valid : n.isValidChar) :
    (Char.ofNat n).toNat = n := by
  rw [Char.ofNat, dif_pos valid]
  rfl

/-- How many bytes follow the first byte of the character with a number. -/
def tailLength (n : Nat) : Nat :=
  if n ≤ 0x7F then 0 else if n ≤ 0x7FF then 1 else if n ≤ 0xFFFF then 2 else 3

/-- The first byte of the character with a number. -/
def leadUnit (n : Nat) : Nat :=
  if n ≤ 0x7F then n
  else if n ≤ 0x7FF then n / 64 + 0xC0
  else if n ≤ 0xFFFF then n / 64 ^ 2 + 0xE0
  else n / 64 ^ 3 + 0xF0

/-- Continuation bytes for the last bits of a number, six for each byte. -/
def tailUnits (n : Nat) : Nat → List Nat
  | 0 => []
  | k + 1 => (n / 64 ^ k % 64 + 0x80) :: tailUnits n k

theorem tailUnits_succ (n k : Nat) :
    tailUnits n (k + 1) = (n / 64 ^ k % 64 + 0x80) :: tailUnits n k := rfl

theorem map_toNat_utf8EncodeChar (c : Char) :
    (String.utf8EncodeChar c).map UInt8.toNat =
      leadUnit c.toNat :: tailUnits c.toNat (tailLength c.toNat) := by
  have isScalar := toNat_isScalar c
  rw [Char.toNat] at isScalar ⊢
  rw [String.utf8EncodeChar, leadUnit, tailLength]
  generalize c.val.toNat = n at isScalar
  simp only [apply_ite (List.map UInt8.toNat), List.map_cons, List.map_nil, UInt8.toNat_ofNat',
    Nat.reducePow]
  split_ifs <;> simp only [tailUnits, List.cons.injEq, and_true] <;> omega

/-- The bytes of a character by its number. -/
theorem utf8EncodeChar_eq_cons_iff_toNat {c : Char} {b : UInt8} {bs : Bytes} :
    String.utf8EncodeChar c = b :: bs ↔
      leadUnit c.toNat = b.toNat ∧
        tailUnits c.toNat (tailLength c.toNat) = bs.map UInt8.toNat := by
  rw [← List.cons.injEq, ← List.map_cons, ← map_toNat_utf8EncodeChar]
  exact (List.map_inj_right fun _ _ => UInt8.toNat_inj.mp).symm

/-- A byte of seven bits is a character of its own. -/
theorem utf8EncodeChar_eq_cons_iff_of_lt {c : Char} {b : UInt8} {bs : Bytes}
    (short : b.toNat < 0x80) :
    String.utf8EncodeChar c = b :: bs ↔ c.toNat = b.toNat ∧ bs = [] := by
  rw [utf8EncodeChar_eq_cons_iff_toNat, leadUnit, tailLength]
  split_ifs with seven
  · rw [tailUnits, eq_comm (a := []), List.map_eq_nil_iff]
  all_goals omega

/-! ## In front of other bytes -/

theorem encode_cons (c : Char) (t : Text) :
    encode (c :: t) = String.utf8EncodeChar c ++ encode t := rfl

/-- No encoding of a character begins with another one. -/
theorem utf8EncodeChar_append_inj {c d : Char} {bs bs' : Bytes}
    (same : String.utf8EncodeChar c ++ bs = String.utf8EncodeChar d ++ bs') :
    c = d ∧ bs = bs' := by
  have decoded := congrArg (fun l => l.toByteArray.utf8DecodeChar? 0) same
  simp only [List.toByteArray_append, ByteArray.utf8DecodeChar?_utf8EncodeChar_append,
    Option.some.injEq] at decoded
  subst decoded
  exact ⟨rfl, List.append_cancel_left same⟩

/-! ## Inside a character -/

namespace Partial

/-- Whether a byte can come next. -/
def Takes (p : Partial) (b : UInt8) : Prop := p.low ≤ b ∧ b ≤ p.high

instance (p : Partial) (b : UInt8) : Decidable (p.Takes b) := inferInstanceAs (Decidable (_ ∧ _))

theorem takes_iff {p : Partial} {b : UInt8} :
    p.Takes b ↔ p.low.toNat ≤ b.toNat ∧ b.toNat ≤ p.high.toNat := by
  rw [Takes, UInt8.le_iff_toNat_le, UInt8.le_iff_toNat_le]

/-- The bits read so far and those of one more byte. -/
def valueWith (p : Partial) (b : UInt8) : Nat := p.value * 64 + (b.toNat - 0x80)

theorem valueWith_eq (p : Partial) (b : UInt8) :
    p.valueWith b = p.value * 64 + (b.toNat - 0x80) := rfl

/-- What is held after one more byte that is not the last. -/
def next (p : Partial) (b : UInt8) : Partial :=
  ⟨p.seen + 1, p.valueWith b, p.owed - 1, 0x80, 0xBF⟩

theorem continueWith_of_last {p : Partial} {b : UInt8} (takes : p.Takes b) (last : p.owed = 1) :
    p.continueWith b = ([.char (Char.ofNat (p.valueWith b))], none) := by
  rw [continueWith]
  exact (if_pos takes).trans (if_pos last)

theorem continueWith_of_next {p : Partial} {b : UInt8} (takes : p.Takes b) (more : p.owed ≠ 1) :
    p.continueWith b = ([], some (p.next b)) := by
  rw [continueWith]
  exact (if_pos takes).trans (if_neg more)

/-- A byte that is not taken is read again at the start of a character. -/
theorem continueWith_of_not_takes {p : Partial} {b : UInt8} (refused : ¬ p.Takes b) :
    p.continueWith b = (.malformed p.seen :: (startWith b).1, (startWith b).2) :=
  if_neg refused

/-- Whether the number of a character starts with the bits read so far and goes on with a
byte that can come next. -/
def Spans (p : Partial) (n : Nat) : Prop :=
  p.value * 64 + (p.low.toNat - 0x80) ≤ n / 64 ^ (p.owed - 1) ∧
    n / 64 ^ (p.owed - 1) ≤ p.value * 64 + (p.high.toNat - 0x80)

/-- Something is owed, and each byte that can come next is a continuation byte that leads
to a character. -/
structure IsLive (p : Partial) : Prop where
  owes : 1 ≤ p.owed
  low : 0x80 ≤ p.low.toNat
  ordered : p.low.toNat ≤ p.high.toNat
  high : p.high.toNat ≤ 0xBF
  valid : ∀ n, p.Spans n → n.isValidChar

namespace IsLive

variable {p : Partial}

/-- The last byte has the last six bits of the number. -/
theorem spans_iff_of_last (live : p.IsLive) (last : p.owed = 1) {b : UInt8} {n : Nat} :
    p.Takes b ∧ p.valueWith b = n ↔ n / 64 ^ (p.owed - 1) % 64 + 0x80 = b.toNat ∧ p.Spans n := by
  obtain ⟨-, low, ordered, high, -⟩ := live
  simp only [takes_iff, valueWith_eq, Spans, last, Nat.sub_self, Nat.pow_zero, Nat.div_one]
  generalize b.toNat = b, p.low.toNat = least, p.high.toNat = greatest at *
  omega

/-- Another byte has the six bits that come next. -/
theorem spans_iff_of_more (live : p.IsLive) (more : p.owed ≠ 1) {b : UInt8} {n : Nat} :
    p.Takes b ∧ (p.next b).Spans n ↔ n / 64 ^ (p.owed - 1) % 64 + 0x80 = b.toNat ∧ p.Spans n := by
  obtain ⟨owes, low, ordered, high, -⟩ := live
  obtain ⟨k, owed⟩ : ∃ k, p.owed = k + 2 := ⟨p.owed - 2, by omega⟩
  have shorter : n / 64 ^ (k + 1) = n / 64 ^ k / 64 := by
    rw [Nat.pow_succ, Nat.div_div_eq_div_mul]
  simp only [takes_iff, next, valueWith_eq, Spans, owed, Nat.add_one_sub_one, shorter,
    UInt8.reduceToNat]
  generalize b.toNat = b, p.low.toNat = least, p.high.toNat = greatest at *
  generalize n / 64 ^ k = m
  omega

theorem next_isLive (live : p.IsLive) (more : p.owed ≠ 1) {b : UInt8} (takes : p.Takes b) :
    (p.next b).IsLive where
  owes := Nat.le_sub_one_of_lt (Nat.lt_of_le_of_ne live.owes more.symm)
  low := Nat.le_refl 0x80
  ordered := (by decide : 0x80 ≤ 0xBF)
  high := Nat.le_refl 0xBF
  valid n spans := live.valid n ((live.spans_iff_of_more more).mp ⟨takes, spans⟩).2

/-- What a last byte leaves is the number of a character. -/
theorem toNat_ofNat_valueWith (live : p.IsLive) (last : p.owed = 1) {b : UInt8}
    (takes : p.Takes b) : (Char.ofNat (p.valueWith b)).toNat = p.valueWith b :=
  toNat_ofNat_of_isValidChar (live.valid _ ((live.spans_iff_of_last last).mp ⟨takes, rfl⟩).2)

end IsLive

/-! ## Finishing a character -/

/-- The bytes that finish a character, and the character. -/
inductive Finishes : Partial → Bytes → Char → Prop where
  | last {p : Partial} {b : UInt8} {c : Char} (takes : p.Takes b) (last : p.owed = 1)
      (value : p.valueWith b = c.toNat) : Finishes p [b] c
  | next {p : Partial} {b : UInt8} {bs : Bytes} {c : Char} (takes : p.Takes b)
      (more : p.owed ≠ 1) (finishes : (p.next b).Finishes bs c) : Finishes p (b :: bs) c

theorem not_finishes_nil {p : Partial} {c : Char} : ¬ p.Finishes [] c := nofun

theorem Finishes.takes {p : Partial} {b : UInt8} {bs : Bytes} {c : Char}
    (finishes : p.Finishes (b :: bs) c) : p.Takes b := by
  cases finishes with
  | last takes => exact takes
  | next takes => exact takes

theorem finishes_cons_iff_of_last {p : Partial} {b : UInt8} {bs : Bytes} {c : Char}
    (last : p.owed = 1) :
    p.Finishes (b :: bs) c ↔ p.Takes b ∧ bs = [] ∧ p.valueWith b = c.toNat := by
  constructor
  · intro finishes
    cases finishes with
    | last takes _ value => exact ⟨takes, rfl, value⟩
    | next _ more => exact absurd last more
  · rintro ⟨takes, rfl, value⟩
    exact .last takes last value

theorem finishes_cons_iff_of_next {p : Partial} {b : UInt8} {bs : Bytes} {c : Char}
    (more : p.owed ≠ 1) :
    p.Finishes (b :: bs) c ↔ p.Takes b ∧ (p.next b).Finishes bs c := by
  constructor
  · intro finishes
    cases finishes with
    | last _ last => exact absurd last more
    | next takes _ finishes => exact ⟨takes, finishes⟩
  · rintro ⟨takes, finishes⟩
    exact .next takes more finishes

/-- Some bytes finish a character. -/
theorem IsLive.exists_finishes {p : Partial} (live : p.IsLive) : ∃ bs c, p.Finishes bs c := by
  obtain ⟨k, owed⟩ := Nat.exists_eq_add_one.mpr live.owes
  have takes : p.Takes p.low := takes_iff.mpr ⟨Nat.le_refl _, live.ordered⟩
  induction k generalizing p with
  | zero =>
      have value := live.toNat_ofNat_valueWith owed takes
      exact ⟨[p.low], _, .last takes owed value.symm⟩
  | succ k ih =>
      have more : p.owed ≠ 1 := by omega
      have live := live.next_isLive more takes
      obtain ⟨bs, c, finishes⟩ := ih live (by rw [next, owed, Nat.add_sub_cancel])
        (takes_iff.mpr ⟨Nat.le_refl _, live.ordered⟩)
      exact ⟨p.low :: bs, c, .next takes more finishes⟩

/-- The bytes that finish a character, by its number. -/
theorem IsLive.finishes_iff {p : Partial} {bs : Bytes} {c : Char} (live : p.IsLive) :
    p.Finishes bs c ↔ tailUnits c.toNat p.owed = bs.map UInt8.toNat ∧ p.Spans c.toNat := by
  obtain ⟨k, owed⟩ := Nat.exists_eq_add_one.mpr live.owes
  rw [owed]
  induction k generalizing p bs with
  | zero =>
      cases bs with
      | nil => simp [not_finishes_nil, tailUnits]
      | cons b bs =>
          rw [finishes_cons_iff_of_last owed, and_left_comm, live.spans_iff_of_last owed, owed,
            tailUnits_succ, List.map_cons, List.cons.injEq, tailUnits, eq_comm (a := []),
            List.map_eq_nil_iff, and_left_comm, and_assoc]
  | succ k ih =>
      cases bs with
      | nil => simp [not_finishes_nil, tailUnits]
      | cons b bs =>
          have more : p.owed ≠ 1 := by omega
          have owed' : (p.next b).owed = k + 1 := by rw [next, owed, Nat.add_sub_cancel]
          rw [finishes_cons_iff_of_next more, tailUnits_succ, List.map_cons, List.cons.injEq]
          constructor
          · rintro ⟨takes, finishes⟩
            obtain ⟨same, spans⟩ := (ih (live.next_isLive more takes) owed').mp finishes
            obtain ⟨unit, spans⟩ := (live.spans_iff_of_more more).mp ⟨takes, spans⟩
            rw [owed, Nat.add_sub_cancel] at unit
            exact ⟨⟨unit, same⟩, spans⟩
          · rintro ⟨⟨unit, same⟩, spans⟩
            rw [← Nat.add_sub_cancel (n := k + 1) (m := 1), ← owed] at unit
            obtain ⟨takes, spans⟩ := (live.spans_iff_of_more more).mpr ⟨unit, spans⟩
            exact ⟨takes, (ih (live.next_isLive more takes) owed').mpr ⟨same, spans⟩⟩

/-! ## First bytes -/

/-- The ways in which a byte starts a character. -/
inductive StartsWith (b : UInt8) : Partial → Prop where
  | two (low : 0xC2 ≤ b.toNat) (high : b.toNat < 0xE0) :
      StartsWith b ⟨1, b.toNat - 0xC0, 1, 0x80, 0xBF⟩
  | three (low : 0xE0 ≤ b.toNat) (high : b.toNat < 0xF0) :
      StartsWith b ⟨1, b.toNat - 0xE0, 2,
        if b = 0xE0 then 0xA0 else 0x80, if b = 0xED then 0x9F else 0xBF⟩
  | four (low : 0xF0 ≤ b.toNat) (high : b.toNat < 0xF5) :
      StartsWith b ⟨1, b.toNat - 0xF0, 3,
        if b = 0xF0 then 0x90 else 0x80, if b = 0xF4 then 0x8F else 0xBF⟩

theorem ofLead?_eq_some_iff {b : UInt8} {p : Partial} : ofLead? b = some p ↔ StartsWith b p := by
  have bound (n : UInt8) : b < n ↔ b.toNat < n.toNat := UInt8.lt_iff_toNat_lt
  simp only [ofLead?, bound, UInt8.reduceToNat]
  constructor
  · intro lead
    split at lead
    · cases lead
    split at lead
    · cases lead
      exact .two (by omega) (by assumption)
    split at lead
    · cases lead
      exact .three (by omega) (by assumption)
    split at lead
    · cases lead
      exact .four (by omega) (by assumption)
    · cases lead
  · intro starts
    cases starts with
    | two low high => rw [if_neg (by omega), if_pos high]
    | three low high => rw [if_neg (by omega), if_neg (by omega), if_pos high]
    | four low high => rw [if_neg (by omega), if_neg (by omega), if_neg (by omega), if_pos high]

namespace StartsWith

variable {b : UInt8} {p : Partial}

theorem seen (starts : StartsWith b p) : p.seen = 1 := by
  cases starts <;> rfl

/-- The range after a first byte is a range of continuation bytes. -/
theorem range (starts : StartsWith b p) :
    0x80 ≤ p.low.toNat ∧ p.low.toNat ≤ p.high.toNat ∧ p.high.toNat ≤ 0xBF := by
  cases starts <;>
    simp only [apply_ite UInt8.toNat, UInt8.reduceToNat, ← UInt8.toNat_inj]
  case two => decide
  all_goals split_ifs <;> omega

/-- A first byte leads to characters alone.  The range after it leaves out the surrogates
and what is too large. -/
theorem isValidChar (starts : StartsWith b p) {n : Nat} (spans : p.Spans n) : n.isValidChar := by
  revert spans
  cases starts <;>
    simp only [Spans, Nat.isValidChar, apply_ite UInt8.toNat, UInt8.reduceToNat,
      ← UInt8.toNat_inj]
  case two => omega
  all_goals split_ifs <;> omega

theorem isLive (starts : StartsWith b p) : p.IsLive :=
  have ⟨low, ordered, high⟩ := starts.range
  ⟨by cases starts <;> exact Nat.le_add_left 1 _, low, ordered, high, fun _ => starts.isValidChar⟩

/-- A first byte says how many bytes follow it. -/
theorem tailLength_eq (starts : StartsWith b p) {n : Nat} (small : n < 0x110000)
    (lead : leadUnit n = b.toNat) : tailLength n = p.owed := by
  rw [leadUnit] at lead
  rw [tailLength]
  cases starts <;> dsimp only <;> split_ifs at lead ⊢ <;> omega

/-- The first byte of a character says the same of its number as the range after it.  The
bounds of the range leave out the forms that are longer than needed. -/
theorem lead_iff (starts : StartsWith b p) {n : Nat}
    (isScalar : n < 0xD800 ∨ 0xDFFF < n ∧ n < 0x110000) :
    leadUnit n = b.toNat ↔ p.Spans n := by
  rw [leadUnit, Spans]
  cases starts <;>
    simp only [apply_ite UInt8.toNat, UInt8.reduceToNat, ← UInt8.toNat_inj] <;>
    generalize b.toNat = b at * <;>
    split_ifs <;> omega

/-- What follows a first byte finishes the character that it starts. -/
theorem utf8EncodeChar_eq_cons_iff (starts : StartsWith b p) {bs : Bytes} {c : Char} :
    String.utf8EncodeChar c = b :: bs ↔ p.Finishes bs c := by
  have isScalar := toNat_isScalar c
  rw [utf8EncodeChar_eq_cons_iff_toNat, starts.isLive.finishes_iff, ← starts.lead_iff isScalar,
    and_comm]
  exact and_congr_left fun lead => by rw [starts.tailLength_eq (by omega) lead]

end StartsWith

/-- The first byte of a character of more than one byte starts it. -/
theorem exists_startsWith {b : UInt8} {bs : Bytes} {c : Char} (eight : 0x80 ≤ b.toNat)
    (encoded : String.utf8EncodeChar c = b :: bs) : ∃ p, StartsWith b p := by
  have isScalar := toNat_isScalar c
  obtain ⟨lead, -⟩ := utf8EncodeChar_eq_cons_iff_toNat.mp encoded
  have inRange : 0xC2 ≤ b.toNat ∧ b.toNat < 0xF5 := by
    rw [leadUnit] at lead
    split_ifs at lead <;> omega
  by_cases two : b.toNat < 0xE0
  · exact ⟨_, .two inRange.1 two⟩
  by_cases three : b.toNat < 0xF0
  · exact ⟨_, .three (by omega) three⟩
  · exact ⟨_, .four (by omega) inRange.2⟩

end Partial
end TemplateLexer.Text
