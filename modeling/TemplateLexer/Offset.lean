import TemplateLexer.Fault

/-!
# Offset arithmetic

Offsets are counted in machine words of 64 bits.  A sum or a difference that
does not fit in one is a fault, so no offset ever wraps around.
-/

namespace TemplateLexer.Offset

/-- The largest offset a machine word holds. -/
def limit : Nat := 18446744073709551615

/-- The sum of two offsets. -/
def add (m n : Nat) : Except Fault Nat :=
  if m + n ≤ limit then .ok (m + n) else .error .addOverflow

/-- The difference of two offsets. -/
def sub (m n : Nat) : Except Fault Nat :=
  if n ≤ m then .ok (m - n) else .error .subtractOverflow

theorem add_eq_ok {m n : Nat} (h : m + n ≤ limit) : add m n = .ok (m + n) := if_pos h

theorem add_eq_error {m n : Nat} (h : limit < m + n) : add m n = .error .addOverflow :=
  if_neg (Nat.not_le_of_lt h)

theorem sub_eq_ok {m n : Nat} (h : n ≤ m) : sub m n = .ok (m - n) := if_pos h

end TemplateLexer.Offset
