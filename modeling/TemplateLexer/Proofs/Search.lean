import Mathlib.Order.Bounds.Basic
import TemplateLexer.Proofs.Utf8
import TemplateLexer.Text.Search

/-!
# Occurrences of a pattern

A pattern is searched for in the bytes of a text.  The bytes of one character
could in principle begin inside another, and then the place that is found would
not be a boundary.  In UTF-8 they cannot.  Two properties of the encoding of a
character rule it out.

* Only its first byte can be the first byte of a character.
* No encoding begins with another one.

So the bytes of a pattern stand in the bytes of a text only where the pattern
stands in the text (`exists_split_of_encode`).  The search finds the leftmost of
these places (`offsetOf?_eq_some_iff`), and it finds none only if there is none
(`offsetOf?_eq_none_iff`).  These two facts leave no choice
(`Bytes.IsLeftmost.eq_offsetOf?`), so nothing here depends on how bytes are
searched.
-/

namespace TemplateLexer

/-! ## Bytes -/

namespace Bytes

/-- The places where a pattern stands in a sequence of bytes. -/
def occurrences (pattern bs : Bytes) : Set Nat :=
  {n | ∃ before after, bs = before ++ pattern ++ after ∧ before.length = n}

theorem isLeast_zero_of_prefix {pattern bs : Bytes} (starts : pattern <+: bs) :
    IsLeast (occurrences pattern bs) 0 := by
  obtain ⟨after, rfl⟩ := starts
  exact ⟨⟨[], after, rfl, rfl⟩, fun n _ => Nat.zero_le n⟩

/-- A pattern that does not stand at the start stands one place further on than in
the rest. -/
theorem isLeast_succ_of_not_prefix {pattern bs : Bytes} {b : UInt8} {n : Nat}
    (later : ¬ pattern <+: b :: bs) (least : IsLeast (occurrences pattern bs) n) :
    IsLeast (occurrences pattern (b :: bs)) (n + 1) := by
  obtain ⟨⟨before, after, same, length⟩, lower⟩ := least
  refine ⟨⟨b :: before, after, by rw [same]; rfl, by rw [List.length_cons, length]⟩, ?_⟩
  rintro m ⟨before', after', same', rfl⟩
  cases before' with
  | nil => exact absurd ⟨after', same'.symm⟩ later
  | cons b' before' =>
      have tails : bs = before' ++ pattern ++ after' := (List.cons.inj same').2
      exact Nat.succ_le_succ (lower ⟨before', after', tails, rfl⟩)

/-- What the search finds is the leftmost occurrence. -/
theorem isLeast_of_offsetOf? {pattern bs : Bytes} {n : Nat}
    (found : offsetOf? pattern bs = some n) : IsLeast (occurrences pattern bs) n := by
  fun_induction offsetOf? pattern bs generalizing n with
  | case1 empty =>
      cases found
      exact isLeast_zero_of_prefix (by simp [List.isEmpty_iff.mp empty])
  | case2 => cases found
  | case3 b bs starts =>
      cases found
      exact isLeast_zero_of_prefix (List.isPrefixOf_iff_prefix.mp starts)
  | case4 b bs later ih =>
      obtain ⟨m, foundLater, rfl⟩ := Option.map_eq_some_iff.mp found
      rw [List.isPrefixOf_iff_prefix] at later
      exact isLeast_succ_of_not_prefix later (ih foundLater)

/-- The search finds nothing only if there is nothing to find. -/
theorem offsetOf?_eq_none_iff {pattern bs : Bytes} :
    offsetOf? pattern bs = none ↔ ¬ pattern <:+: bs := by
  fun_induction offsetOf? pattern bs with
  | case1 empty => simp [List.isEmpty_iff.mp empty]
  | case2 nonempty => simpa [List.infix_nil] using nonempty
  | case3 b bs starts =>
      have stands := (List.isPrefixOf_iff_prefix.mp starts).isInfix
      simp [stands]
  | case4 b bs later ih =>
      rw [List.isPrefixOf_iff_prefix] at later
      rw [Option.map_eq_none_iff, ih, List.infix_cons_iff]
      exact ⟨fun none => by simp [later, none], fun none stands => none (Or.inr stands)⟩

/-- A search is *leftmost* if what it finds is the leftmost occurrence and it finds
nothing only if there is nothing to find.  Searches are documented so, and how one
goes about it is left open. -/
structure IsLeftmost (find : Bytes → Bytes → Option Nat) : Prop where
  /-- What it finds is the leftmost occurrence. -/
  isLeast : ∀ {pattern bs n}, find pattern bs = some n → IsLeast (occurrences pattern bs) n
  /-- It misses no occurrence. -/
  complete : ∀ {pattern bs}, find pattern bs = none → ¬ pattern <:+: bs

theorem offsetOf?_isLeftmost : IsLeftmost offsetOf? :=
  ⟨isLeast_of_offsetOf?, offsetOf?_eq_none_iff.mp⟩

/-- There is one leftmost search.  So a search of any other make answers as
`Bytes.offsetOf?` does. -/
theorem IsLeftmost.eq_offsetOf? {find : Bytes → Bytes → Option Nat} (leftmost : IsLeftmost find) :
    find = offsetOf? := by
  funext pattern bs
  cases ours : offsetOf? pattern bs with
  | none =>
      cases theirs : find pattern bs with
      | none => rfl
      | some n =>
          obtain ⟨before, after, rfl, _⟩ := (leftmost.isLeast theirs).1
          exact absurd ⟨before, after, rfl⟩ (offsetOf?_eq_none_iff.mp ours)
  | some m =>
      have least := isLeast_of_offsetOf? ours
      cases theirs : find pattern bs with
      | none =>
          obtain ⟨before, after, rfl, _⟩ := least.1
          exact absurd ⟨before, after, rfl⟩ (leftmost.complete theirs)
      | some n => rw [(leftmost.isLeast theirs).unique least]

end Bytes

/-! ## The encoding of a character -/

namespace Text

/-- Texts begin with each other as their bytes do. -/
theorem encode_prefix_iff {p t : Text} : encode p <+: encode t ↔ p <+: t := by
  constructor
  · intro starts
    induction p generalizing t with
    | nil => exact List.nil_prefix
    | cons c p ih =>
        obtain ⟨after, same⟩ := starts
        cases t with
        | nil =>
            have := congrArg List.length same
            simp [encode_cons, Nat.ne_of_gt c.utf8Size_pos] at this
        | cons d t =>
            rw [encode_cons, encode_cons, List.append_assoc] at same
            obtain ⟨rfl, tails⟩ := utf8EncodeChar_append_inj same
            exact List.cons_prefix_cons.mpr ⟨rfl, ih ⟨after, tails⟩⟩
  · rintro ⟨u, rfl⟩
    rw [encode_append]
    exact List.prefix_append _ _

/-- The bytes of a text begin with the first byte of a character. -/
theorem encode_cons_eq (c : Char) (t : Text) :
    ∃ b bs, encode (c :: t) = b :: bs ∧ b.IsUTF8FirstByte := by
  obtain ⟨b, bs, split⟩ := List.exists_cons_of_ne_nil (String.utf8EncodeChar_ne_nil (c := c))
  refine ⟨b, bs ++ encode t, by rw [encode_cons, split]; rfl, ?_⟩
  have first := UInt8.isUTF8FirstByte_getElem_zero_utf8EncodeChar (c := c)
  simpa [split] using first

/-- The first byte of a character stands at the start of an encoding only. -/
theorem eq_nil_of_utf8EncodeChar {c : Char} {before after : Bytes} {b : UInt8}
    (split : String.utf8EncodeChar c = before ++ b :: after) (first : b.IsUTF8FirstByte) :
    before = [] := by
  have inside : before.length < (String.utf8EncodeChar c).length := by simp [split]
  have there : (String.utf8EncodeChar c)[before.length] = b := by simp [split]
  rw [← there, UInt8.isUTF8FirstByte_getElem_utf8EncodeChar] at first
  exact List.length_eq_zero_iff.mp first

/-! ## Texts -/

/-- The bytes of a pattern stand only where the pattern does. -/
theorem exists_split_of_encode {p t : Text} (nonempty : p ≠ []) {before after : Bytes}
    (same : encode t = before ++ encode p ++ after) :
    ∃ u v, t = u ++ p ++ v ∧ size u = before.length := by
  obtain ⟨d, p, rfl⟩ := List.exists_cons_of_ne_nil nonempty
  obtain ⟨b, bs, bytes, first⟩ := encode_cons_eq d p
  induction t generalizing before with
  | nil =>
      rw [bytes] at same
      simp at same
  | cons c t ih =>
      rw [encode_cons, List.append_assoc] at same
      -- the pattern stands behind the bytes of the first character or reaches into them
      rcases List.append_eq_append_iff.mp same with ⟨skipped, rfl, tails⟩ | ⟨inner, split, tails⟩
      · rw [← List.append_assoc] at tails
        obtain ⟨u, v, rfl, length⟩ := ih tails
        exact ⟨c :: u, v, rfl, by simp [length]⟩
      · cases inner with
        | nil =>
            have next : encode t = [] ++ encode (d :: p) ++ after := tails.symm
            obtain ⟨u, v, rfl, length⟩ := ih next
            exact ⟨c :: u, v, rfl, by simpa [length] using congrArg List.length split⟩
        | cons b' inner =>
            rw [bytes, List.cons_append, List.cons_append] at tails
            rw [← (List.cons.inj tails).1] at split
            have atStart := eq_nil_of_utf8EncodeChar split first
            subst atStart
            obtain ⟨v, rest⟩ := encode_prefix_iff (t := c :: t).mp ⟨after, same.symm⟩
            exact ⟨[], v, by rw [List.nil_append, rest], rfl⟩

/-- The places where a pattern stands in a text. -/
def occurrences (pattern t : Text) : Set Nat :=
  {n | ∃ u v, t = u ++ pattern ++ v ∧ size u = n}

/-- A pattern and its bytes stand at the same places. -/
theorem occurrences_encode {p t : Text} (nonempty : p ≠ []) :
    Bytes.occurrences (encode p) (encode t) = occurrences p t := by
  ext n
  constructor
  · rintro ⟨before, after, same, rfl⟩
    exact exists_split_of_encode nonempty same
  · rintro ⟨u, v, rfl, rfl⟩
    exact ⟨encode u, encode v, by simp, length_encode u⟩

/-- What the search finds is the leftmost occurrence. -/
theorem isLeast_of_offsetOf? {p t : Text} {n : Nat} (found : offsetOf? p t = some n) :
    IsLeast (occurrences p t) n := by
  have least := Bytes.isLeast_of_offsetOf? found
  cases p with
  | nil =>
      have zero : n = 0 := least.unique (Bytes.isLeast_zero_of_prefix List.nil_prefix)
      subst zero
      exact ⟨⟨[], t, rfl, rfl⟩, fun m _ => Nat.zero_le m⟩
  | cons c p => rwa [occurrences_encode (List.cons_ne_nil c p)] at least

/-- The search finds nothing only if there is nothing to find. -/
theorem offsetOf?_eq_none_iff {p t : Text} : offsetOf? p t = none ↔ ¬ p <:+: t := by
  rw [offsetOf?, Bytes.offsetOf?_eq_none_iff, not_iff_not]
  constructor
  · rintro ⟨before, after, same⟩
    cases p with
    | nil => exact List.nil_infix
    | cons c p =>
        obtain ⟨u, v, rfl, _⟩ := exists_split_of_encode (List.cons_ne_nil c p) same.symm
        exact ⟨u, v, rfl⟩
  · rintro ⟨u, v, rfl⟩
    exact ⟨encode u, encode v, by simp⟩

/-- The search finds the leftmost occurrence. -/
theorem offsetOf?_eq_some_iff {p t : Text} {n : Nat} :
    offsetOf? p t = some n ↔ IsLeast (occurrences p t) n := by
  refine ⟨isLeast_of_offsetOf?, fun least => ?_⟩
  cases found : offsetOf? p t with
  | none =>
      obtain ⟨u, v, rfl, _⟩ := least.1
      exact absurd ⟨u, v, rfl⟩ (offsetOf?_eq_none_iff.mp found)
  | some m => rw [(isLeast_of_offsetOf? found).unique least]

end Text

end TemplateLexer
