import TemplateLexer.Text.Basic

/-!
# Sets of code points

A set of code points is a list of ranges, both ends included.  The ranges are in
increasing order, so a search stops at the first range past the code point.

`contains_iff` says that stopping there loses nothing.
-/

namespace TemplateLexer

/-- A set of code points as ranges in increasing order. -/
abbrev Ranges := List (Nat × Nat)

namespace Ranges

/-- Whether one of the ranges holds the code point. -/
def contains : Ranges → Nat → Bool
  | [], _ => false
  | (first, last) :: rest, n => first ≤ n && (n ≤ last || contains rest n)

/-- Whether every range begins after `bound` and after the ranges before it. -/
def increasingFrom : Nat → Ranges → Bool
  | _, [] => true
  | bound, (first, last) :: rest => bound < first && first ≤ last && increasingFrom last rest

/-- Ranges that increase from a bound hold nothing up to it. -/
theorem contains_eq_false {bound n : Nat} (small : n ≤ bound) :
    ∀ {rs : Ranges}, increasingFrom bound rs = true → contains rs n = false
  | [], _ => rfl
  | (first, last) :: rest, increasing => by
      simp only [increasingFrom, Bool.and_eq_true, decide_eq_true_eq] at increasing
      simp [contains, show ¬ first ≤ n by omega]

/-- A code point is in increasing ranges if it is in one of them. -/
theorem contains_iff {n : Nat} :
    ∀ {bound : Nat} {rs : Ranges}, increasingFrom bound rs = true →
      (contains rs n = true ↔ ∃ r ∈ rs, r.1 ≤ n ∧ n ≤ r.2)
  | _, [], _ => by simp [contains]
  | bound, (first, last) :: rest, increasing => by
      simp only [increasingFrom, Bool.and_eq_true, decide_eq_true_eq] at increasing
      obtain ⟨⟨_, ordered⟩, later⟩ := increasing
      simp only [List.mem_cons, exists_eq_or_imp, ← contains_iff later]
      by_cases reached : first ≤ n
      · simp [contains, reached]
      · have none : contains rest n = false := contains_eq_false (by omega) later
        simp [contains, reached, none]

end Ranges

end TemplateLexer
