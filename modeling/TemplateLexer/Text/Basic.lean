/-!
# Text and its byte offsets

A *text* is a list of characters.  A place in it is a byte offset: the number of
bytes that the characters before it take in UTF-8.  Not every number is the
offset of a place.  A *boundary* is an offset at which a character starts or the
text ends.

Offsets come from outside, so the operations that take one are partial.
`dropBytes?`, `takeBytes?` and `slice?` answer `none` for an offset past the end
or inside a character, and never round it to a boundary nearby.

Recursion is on the list of characters throughout.
-/

namespace TemplateLexer

/-- A text is a list of characters. -/
abbrev Text := List Char

namespace Text

/-! ## Sizes -/

/-- The number of bytes of a text in UTF-8. -/
def size : Text → Nat
  | [] => 0
  | c :: t => c.utf8Size + size t

@[simp] theorem size_nil : size [] = 0 := rfl

@[simp] theorem size_cons (c : Char) (t : Text) : size (c :: t) = c.utf8Size + size t := rfl

@[simp] theorem size_append (t u : Text) : size (t ++ u) = size t + size u := by
  induction t with
  | nil => simp
  | cons c t ih => simp [ih, Nat.add_assoc]

theorem size_le_append (t u : Text) : size t ≤ size (t ++ u) := by
  rw [size_append]
  exact Nat.le_add_right _ _

/-! ## Cutting at an offset -/

/-- What follows the first `n` bytes, if `n` is a boundary. -/
def dropBytes? : Nat → Text → Option Text
  | 0, t => some t
  | _ + 1, [] => none
  | n + 1, c :: t => if c.utf8Size ≤ n + 1 then dropBytes? (n + 1 - c.utf8Size) t else none

/-- The first `n` bytes, if `n` is a boundary. -/
def takeBytes? : Nat → Text → Option Text
  | 0, _ => some []
  | _ + 1, [] => none
  | n + 1, c :: t =>
      if c.utf8Size ≤ n + 1 then (takeBytes? (n + 1 - c.utf8Size) t).map (c :: ·) else none

/-- The text between two offsets, if they are boundaries in order. -/
def slice? (t : Text) (start stop : Nat) : Option Text :=
  if start ≤ stop then (dropBytes? start t).bind (takeBytes? (stop - start)) else none

/-- Whether a character starts at the offset or the text ends there. -/
def isBoundary (t : Text) (n : Nat) : Bool := (dropBytes? n t).isSome

theorem dropBytes?_cons (c : Char) (t : Text) (n : Nat) :
    dropBytes? (c.utf8Size + n) (c :: t) = dropBytes? n t := by
  obtain ⟨m, hm⟩ : ∃ m, c.utf8Size = m + 1 := Nat.exists_eq_add_one.mpr c.utf8Size_pos
  rw [show c.utf8Size + n = m + n + 1 by omega, dropBytes?, if_pos (by omega),
    show m + n + 1 - c.utf8Size = n by omega]

theorem takeBytes?_cons (c : Char) (t : Text) (n : Nat) :
    takeBytes? (c.utf8Size + n) (c :: t) = (takeBytes? n t).map (c :: ·) := by
  obtain ⟨m, hm⟩ : ∃ m, c.utf8Size = m + 1 := Nat.exists_eq_add_one.mpr c.utf8Size_pos
  rw [show c.utf8Size + n = m + n + 1 by omega, takeBytes?, if_pos (by omega),
    show m + n + 1 - c.utf8Size = n by omega]

/-- Dropping as many bytes as a first part has leaves the second part. -/
theorem dropBytes?_append (t u : Text) : dropBytes? (size t) (t ++ u) = some u := by
  induction t with
  | nil => cases u <;> rfl
  | cons c t ih => rw [size_cons, List.cons_append, dropBytes?_cons, ih]

/-- What is left after dropping bytes is the end of the text. -/
theorem eq_append_of_dropBytes? {n : Nat} {t u : Text} (h : dropBytes? n t = some u) :
    ∃ p, t = p ++ u ∧ size p = n := by
  fun_induction dropBytes? n t with
  | case1 t => exact ⟨[], by simpa using h, rfl⟩
  | case2 => cases h
  | case3 n c t fits ih =>
      obtain ⟨p, rfl, hp⟩ := ih h
      exact ⟨c :: p, rfl, by rw [size_cons, hp]; omega⟩
  | case4 => cases h

/-- An offset is a boundary if the text splits there. -/
theorem isBoundary_iff {t : Text} {n : Nat} :
    isBoundary t n = true ↔ ∃ p u, t = p ++ u ∧ size p = n := by
  rw [isBoundary, Option.isSome_iff_exists]
  constructor
  · rintro ⟨u, hu⟩
    obtain ⟨p, hp⟩ := eq_append_of_dropBytes? hu
    exact ⟨p, u, hp⟩
  · rintro ⟨p, u, rfl, rfl⟩
    exact ⟨u, dropBytes?_append p u⟩

/-- Taking as many bytes as a first part has gives the first part. -/
theorem takeBytes?_append (t u : Text) : takeBytes? (size t) (t ++ u) = some t := by
  induction t with
  | nil => cases u <;> rfl
  | cons c t ih => rw [size_cons, List.cons_append, takeBytes?_cons, ih, Option.map_some]

/-- The slice of a middle part is that part. -/
theorem slice?_append (t u v : Text) :
    slice? (t ++ u ++ v) (size t) (size t + size u) = some u := by
  rw [slice?, if_pos (Nat.le_add_right ..), List.append_assoc, dropBytes?_append,
    Option.bind_some, Nat.add_sub_cancel_left, takeBytes?_append]

/-! ## Cutting at a character count -/

/-- The longest part at the start of a text with at most `n` characters. -/
def truncate (t : Text) (n : Nat) : Text := t.take n

end Text

end TemplateLexer
