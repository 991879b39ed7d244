import TemplateLexer.Proofs.Arguments
import TemplateLexer.Proofs.Groups

/-!
# How changes are spelled

`Group.Writes` lists what a group can say, letter by letter: the options without a value, the
options with one, the ways to name an input, and templates.  A group is read as the change that
it writes and as no other (`Group.writes_iff`).  Numbers are digits behind an optional plus sign
(`Text.readDecimal?_eq_some_iff`).

`Group.Spell` does the same for all groups of a list.  Two dashes change nothing.  The order of
groups is that of the changes (`Spell.perm`), and the inputs that the changes give are those of
the groups (`Spell.exists_filterMap_input?_iff`).
-/

namespace TemplateLexer

/-! ## Numbers -/

namespace Text

/-- Whether a text is a number in decimal: digits, with a plus sign before them or without. -/
def IsDecimal (t : Text) (n : Nat) : Prop :=
  ∃ digits, (t = digits ∨ t = '+' :: digits) ∧ digits ≠ [] ∧ (∀ c ∈ digits, c.isDigit = true) ∧
    Nat.ofDigitChars 10 digits 0 = n

theorem withoutPlus_of_isDigit {digits : Text} (all : ∀ c ∈ digits, c.isDigit = true) :
    withoutPlus digits = digits := by
  unfold withoutPlus
  split
  · exact absurd (all '+' List.mem_cons_self) (by decide)
  · rfl

theorem eq_or_eq_of_withoutPlus (t : Text) : t = withoutPlus t ∨ t = '+' :: withoutPlus t := by
  unfold withoutPlus
  split
  · exact .inr rfl
  · exact .inl rfl

/-- What is read is a number in decimal up to the bound. -/
theorem readDecimal?_eq_some_iff {bound n : Nat} {t : Text} :
    readDecimal? bound t = some n ↔ IsDecimal t n ∧ n ≤ bound := by
  rw [readDecimal?, Option.ite_none_right_eq_some, Option.some.injEq, List.all_eq_true]
  constructor
  · rintro ⟨⟨nonempty, all, fits⟩, rfl⟩
    exact ⟨⟨withoutPlus t, eq_or_eq_of_withoutPlus t, nonempty, all, rfl⟩, fits⟩
  · rintro ⟨⟨digits, signed, nonempty, all, rfl⟩, fits⟩
    have bare : withoutPlus t = digits := by
      obtain rfl | rfl := signed
      · exact withoutPlus_of_isDigit all
      · rfl
    rw [bare]
    exact ⟨⟨nonempty, all, fits⟩, rfl⟩

end Text

/-! ## Words for options -/

namespace Keyword

theorem spelling_of_ofSpelling? {t : Text} {k : Keyword} (read : ofSpelling? t = some k) :
    k.spelling = t := by
  have found := List.find?_some read
  exact of_decide_eq_true found

/-- An option without a value, as it is read. -/
theorem ofArgument_spelling (k : Keyword) :
    Change.ofArgument k.spelling = Change.ofOption k.spelling (some k) none := by
  have noValue := k.dropWhile_spelling []
  rw [List.append_nil, List.dropWhile_nil] at noValue
  rw [Writes.alone.ofArgument_eq, noValue, List.tail?_nil]

/-- An option with a value, as it is read. -/
theorem ofArgument_withValue (k : Keyword) (value : Text) :
    Change.ofArgument (k.spelling ++ '=' :: value) =
      Change.ofOption (k.spelling ++ '=' :: value) (some k) (some value) := by
  rw [(Writes.withValue value).ofArgument_eq, dropWhile_spelling]
  rfl

end Keyword

namespace Coloring

theorem ofWord?_eq_some_iff {t : Text} {mode : Coloring} :
    ofWord? t = some mode ↔ mode.word = t := by
  constructor
  · intro read
    have found := List.find?_some read
    exact of_decide_eq_true found
  · rintro rfl
    cases mode <;> decide

end Coloring

/-! ## What a change gives -/

namespace Change

/-- The name that a change gives. -/
def name? : Change → Option Text
  | .name t => some t
  | _ => none

/-- The width that a change gives. -/
def width? : Change → Option Nat
  | .width n => some n
  | _ => none

/-- The mode that a change gives. -/
def color? : Change → Option Coloring
  | .color mode => some mode
  | _ => none

/-- The input that a change gives. -/
def input? : Change → Option Input
  | .input i _ => some i
  | _ => none

end Change

/-! ## What a group writes -/

namespace Group

/-- The change that a group writes. -/
inductive Writes : Group → Change → Prop where
  | spans : Writes (.alone "--spans".toList) .spans
  | showEnd : Writes (.alone "--show-eof".toList) .showEnd
  | noReport : Writes (.alone "--no-report".toList) .noReport
  | name (value : Text) : Writes (.alone ("--name=".toList ++ value)) (.name value)
  | width {value : Text} {n : Nat} (isDecimal : value.IsDecimal n)
      (fits : n ≤ 18446744073709551615) :
      Writes (.alone ("--width=".toList ++ value)) (.width n)
  | auto : Writes (.alone "--color=auto".toList) (.color .auto)
  | always : Writes (.alone "--color=always".toList) (.color .always)
  | never : Writes (.alone "--color=never".toList) (.color .never)
  /-- A path behind an equals sign. -/
  | file {path : Text} (noDash : path ≠ ['-']) :
      Writes (.alone ("--file=".toList ++ path)) (.input (.file path) path)
  /-- A dash in the place of a path. -/
  | fileDash : Writes (.alone "--file=-".toList) (.input .standard ['-'])
  /-- A path of its own. -/
  | fileAt (option : Text) {path : Text} (noDash : path ≠ ['-']) :
      Writes (.fileAt option path) (.input (.file path) path)
  | fileAtDash (option : Text) : Writes (.fileAt option ['-']) (.input .standard ['-'])
  | standard : Writes (.alone ['-']) (.input .standard ['-'])
  /-- A template that does not start with a dash. -/
  | text {t : Text} (noDash : t.head? ≠ some '-') : Writes (.alone t) (.input (.text t) t)
  /-- A template behind two dashes. -/
  | literal (t : Text) : Writes (.literal t) (.input (.text t) t)

theorem writes_file (path : Text) :
    (alone ("--file=".toList ++ path)).Writes (.input (.ofPath path) path) := by
  by_cases dash : path = ['-']
  · rw [dash]
    exact .fileDash
  · rw [Input.ofPath_of_ne dash]
    exact .file dash

theorem writes_fileAt (option path : Text) :
    (fileAt option path).Writes (.input (.ofPath path) path) := by
  by_cases dash : path = ['-']
  · rw [dash]
    exact .fileAtDash option
  · rw [Input.ofPath_of_ne dash]
    exact .fileAt option dash

/-- An option that is read is written as its name and its value say. -/
theorem writes_of_ofOption {argument : Text} {k : Keyword} {c : Change}
    (name : k.spelling = argument.takeWhile (· ≠ '='))
    (read : Change.ofOption argument (some k) (argument.dropWhile (· ≠ '=')).tail? = .ok c) :
    (alone argument).Writes c := by
  have split : argument = k.spelling ++ argument.dropWhile (· ≠ '=') := by
    rw [name, List.takeWhile_append_dropWhile]
  have equals := List.head?_dropWhile_not (· ≠ '=') argument
  generalize argument.dropWhile (· ≠ '=') = rest at split read equals
  subst split
  cases rest with
  | nil =>
      rw [List.append_nil] at read ⊢
      cases k with
      | spans => cases read; exact .spans
      | showEnd => cases read; exact .showEnd
      | noReport => cases read; exact .noReport
      | file | name | width | color => cases read
  | cons d value =>
      obtain rfl : d = '=' := by simpa using equals
      cases k with
      | spans | showEnd | noReport => cases read
      | file => cases read; exact writes_file value
      | name => cases read; exact .name value
      | width =>
          simp only [List.tail?_cons, Change.ofOption] at read
          split at read
          next n isNumber =>
            obtain ⟨isDecimal, fits⟩ := Text.readDecimal?_eq_some_iff.mp isNumber
            cases read
            exact .width isDecimal fits
          next => cases read
      | color =>
          simp only [List.tail?_cons, Change.ofOption] at read
          split at read
          next mode isMode =>
            cases read
            rw [← Coloring.ofWord?_eq_some_iff.mp isMode]
            cases mode with
            | auto => exact .auto
            | always => exact .always
            | never => exact .never
          next => cases read

theorem writes_of_ofArgument {argument : Text} {c : Change}
    (read : Change.ofArgument argument = .ok c) : (alone argument).Writes c := by
  unfold Change.ofArgument at read
  split at read
  next noDash =>
    cases read
    exact .text noDash
  split at read
  next dash =>
    cases read
    subst dash
    exact .standard
  cases known : Keyword.ofSpelling? (argument.takeWhile (· ≠ '=')) with
  | none =>
      rw [known] at read
      cases read
  | some k =>
      rw [known] at read
      exact writes_of_ofOption (Keyword.spelling_of_ofSpelling? known) read

theorem changes_of_ofArgument {argument : Text} {c : Change}
    (read : Change.ofArgument argument = .ok c) : (alone argument).changes = [.ok c] :=
  congrArg (fun read => [read]) read

/-- A group that writes a change is read as that change. -/
theorem Writes.changes_eq {g : Group} {c : Change} (writes : g.Writes c) : g.changes = [.ok c] := by
  cases writes with
  | spans => exact changes_of_ofArgument (Keyword.ofArgument_spelling .spans)
  | showEnd => exact changes_of_ofArgument (Keyword.ofArgument_spelling .showEnd)
  | noReport => exact changes_of_ofArgument (Keyword.ofArgument_spelling .noReport)
  | name value => exact changes_of_ofArgument (Keyword.ofArgument_withValue .name value)
  | @width value n isDecimal fits =>
      have isNumber : Text.readDecimal? Offset.limit value = some n :=
        Text.readDecimal?_eq_some_iff.mpr ⟨isDecimal, fits⟩
      have read := Keyword.ofArgument_withValue .width value
      rw [Change.ofOption, isNumber] at read
      exact changes_of_ofArgument read
  | auto => exact changes_of_ofArgument (Keyword.ofArgument_withValue .color Coloring.auto.word)
  | always => exact changes_of_ofArgument (Keyword.ofArgument_withValue .color Coloring.always.word)
  | never => exact changes_of_ofArgument (Keyword.ofArgument_withValue .color Coloring.never.word)
  | @file path noDash =>
      have read := Keyword.ofArgument_withValue .file path
      rw [Change.ofOption, Input.ofPath_of_ne noDash] at read
      exact changes_of_ofArgument read
  | fileDash => exact changes_of_ofArgument (Keyword.ofArgument_withValue .file ['-'])
  | fileAt option noDash => rw [changes, Input.ofPath_of_ne noDash]
  | fileAtDash option => rfl
  | standard => rfl
  | @text t noDash => rw [changes, Change.ofArgument, if_pos noDash]
  | literal t => rfl

theorem Writes.ofArgument_eq {argument : Text} {c : Change} (writes : (alone argument).Writes c) :
    Change.ofArgument argument = .ok c :=
  List.singleton_inj.mp writes.changes_eq

/-- A group is read as the change that it writes. -/
theorem writes_iff {g : Group} {c : Change} : g.Writes c ↔ g.changes = [.ok c] := by
  refine ⟨Writes.changes_eq, fun read => ?_⟩
  cases g with
  | dashes => cases read
  | fileAt option path =>
      cases read
      exact writes_fileAt option path
  | fileOnly option => cases read
  | alone argument => exact writes_of_ofArgument (List.singleton_inj.mp read)
  | literal t =>
      cases read
      exact .literal t

/-- Two dashes are not read as a change, and every other group is read as one or as a failure. -/
theorem changes_cases (g : Group) : g = .dashes ∨ ∃ read, g.changes = [read] := by
  cases g with
  | dashes => exact .inl rfl
  | fileAt | fileOnly | alone | literal => exact .inr ⟨_, rfl⟩

/-! ## What groups write together -/

/-- Whether a group says something.  Two dashes change nothing. -/
def IsWellFormed (g : Group) : Prop := g = .dashes ∨ ∃ c, g.Writes c

/-- The changes that some groups write, in their order. -/
inductive Spell : List Group → List Change → Prop where
  | nil : Spell [] []
  | dashes {gs : List Group} {cs : List Change} (later : Spell gs cs) : Spell (.dashes :: gs) cs
  | cons {g : Group} {gs : List Group} {c : Change} {cs : List Change} (first : g.Writes c)
      (later : Spell gs cs) : Spell (g :: gs) (c :: cs)

/-- Groups are read as the changes that they write. -/
theorem spell_iff {gs : List Group} {cs : List Change} :
    Spell gs cs ↔ gs.flatMap changes = cs.map .ok := by
  constructor
  · intro spell
    induction spell with
    | nil => rfl
    | dashes later ih => exact ih
    | cons first later ih =>
        rw [List.flatMap_cons, first.changes_eq, ih, List.map_cons, List.singleton_append]
  · intro read
    induction gs generalizing cs with
    | nil =>
        rw [List.map_eq_nil_iff.mp read.symm]
        exact .nil
    | cons g gs ih =>
        rw [List.flatMap_cons] at read
        obtain rfl | ⟨first, isRead⟩ := g.changes_cases
        · exact .dashes (ih read)
        · rw [isRead, List.singleton_append] at read
          obtain ⟨c, cs, rfl, rfl, later⟩ := List.map_eq_cons_iff.mp read.symm
          exact .cons (writes_iff.mpr isRead) (ih later.symm)

/-- Groups write changes if each of them is well formed. -/
theorem exists_spell_iff {gs : List Group} :
    (∃ cs, Spell gs cs) ↔ ∀ g ∈ gs, g.IsWellFormed := by
  constructor
  · rintro ⟨cs, spell⟩
    induction spell with
    | nil => exact List.forall_mem_nil _
    | dashes later ih => exact List.forall_mem_cons.mpr ⟨.inl rfl, ih⟩
    | cons first later ih => exact List.forall_mem_cons.mpr ⟨.inr ⟨_, first⟩, ih⟩
  · intro wellFormed
    induction gs with
    | nil => exact ⟨[], .nil⟩
    | cons g gs ih =>
        obtain ⟨first, later⟩ := List.forall_mem_cons.mp wellFormed
        obtain ⟨cs, spell⟩ := ih later
        obtain rfl | ⟨c, writes⟩ := first
        · exact ⟨cs, .dashes spell⟩
        · exact ⟨c :: cs, .cons writes spell⟩

/-- Groups in another order write the changes in another order. -/
theorem Spell.perm {gs gs' : List Group} {cs : List Change} (spell : Spell gs cs)
    (perm : gs.Perm gs') : ∃ cs', Spell gs' cs' ∧ cs.Perm cs' := by
  induction perm generalizing cs with
  | nil => exact ⟨cs, spell, .refl cs⟩
  | cons g perm ih =>
      cases spell with
      | dashes later =>
          obtain ⟨cs', spell', order⟩ := ih later
          exact ⟨cs', .dashes spell', order⟩
      | @cons _ _ c _ first later =>
          obtain ⟨cs', spell', order⟩ := ih later
          exact ⟨c :: cs', .cons first spell', order.cons c⟩
  | swap g g' gs =>
      cases spell with
      | dashes later =>
          cases later with
          | dashes later => exact ⟨_, .dashes (.dashes later), .refl _⟩
          | cons first later => exact ⟨_, .cons first (.dashes later), .refl _⟩
      | cons first later =>
          cases later with
          | dashes later => exact ⟨_, .dashes (.cons first later), .refl _⟩
          | cons second later => exact ⟨_, .cons second (.cons first later), .swap _ _ _⟩
  | trans perm perm' ih ih' =>
      obtain ⟨cs', spell', order⟩ := ih spell
      obtain ⟨cs'', spell'', order'⟩ := ih' spell'
      exact ⟨cs'', spell'', order.trans order'⟩

/-- What is read off the changes can be read off the groups, if this is so for each of them. -/
theorem Spell.filterMap_eq {α : Type} {p : Change → Option α} {q : Group → Option α}
    (dashes : q .dashes = none) (same : ∀ g c, g.Writes c → p c = q g) {gs : List Group}
    {cs : List Change} (spell : Spell gs cs) : cs.filterMap p = gs.filterMap q := by
  induction spell with
  | nil => rfl
  | dashes later ih => rw [ih, List.filterMap_cons_none dashes]
  | cons first later ih => rw [List.filterMap_cons, List.filterMap_cons, same _ _ first, ih]

/-! ## Reports among groups -/

/-- Whether a group gives an input. -/
def GivesInput (g : Group) : Prop := ∃ i written, g.Writes (.input i written)

/-- The input that a group gives, as it is read. -/
def input? (g : Group) : Option Input :=
  (g.changes.head?.bind Except.toOption).bind Change.input?

theorem Writes.input?_eq {g : Group} {c : Change} (writes : g.Writes c) : c.input? = g.input? := by
  rw [input?, writes.changes_eq]
  rfl

theorem input?_eq_none_iff {g : Group} : g.input? = none ↔ ¬ g.GivesInput := by
  constructor
  · rintro none ⟨i, written, writes⟩
    rw [← writes.input?_eq] at none
    cases none
  · intro noInput
    obtain rfl | ⟨read, isRead⟩ := g.changes_cases
    · rfl
    · rw [input?, isRead]
      cases read with
      | error f => rfl
      | ok c =>
          cases c with
          | input i written => exact absurd ⟨i, written, writes_iff.mpr isRead⟩ noInput
          | _ => rfl

theorem Spell.filterMap_input? {gs : List Group} {cs : List Change} (spell : Spell gs cs) :
    cs.filterMap Change.input? = gs.filterMap input? :=
  spell.filterMap_eq rfl fun _ _ writes => writes.input?_eq

theorem Spell.filterMap_input?_eq_nil_iff {gs : List Group} {cs : List Change}
    (spell : Spell gs cs) :
    cs.filterMap Change.input? = [] ↔ ∀ g ∈ gs, ¬ g.GivesInput := by
  rw [spell.filterMap_input?, List.filterMap_eq_nil_iff]
  exact forall₂_congr fun g _ => input?_eq_none_iff

/-- The changes give one input if one group gives an input and no other does. -/
theorem Spell.exists_filterMap_input?_iff {gs : List Group} {cs : List Change}
    (spell : Spell gs cs) :
    (∃ i, cs.filterMap Change.input? = [i]) ↔
      ∃ front g back, gs = front ++ g :: back ∧ g.GivesInput ∧
        ∀ g' ∈ front ++ back, ¬ g'.GivesInput := by
  rw [spell.filterMap_input?]
  constructor
  · rintro ⟨i, one⟩
    obtain ⟨front, g, back, rfl, before, given, behind⟩ := List.filterMap_eq_cons_iff.mp one
    refine ⟨front, g, back, rfl, ?_, ?_⟩
    · refine Classical.not_not.mp fun noInput => ?_
      rw [input?_eq_none_iff.mpr noInput] at given
      cases given
    · refine List.forall_mem_append.mpr ⟨fun g' member => ?_, fun g' member => ?_⟩
      · exact input?_eq_none_iff.mp (before g' member)
      · exact input?_eq_none_iff.mp (List.filterMap_eq_nil_iff.mp behind g' member)
  · rintro ⟨front, g, back, rfl, ⟨i, written, writes⟩, others⟩
    obtain ⟨before, behind⟩ := List.forall_mem_append.mp others
    refine ⟨i, List.filterMap_eq_cons_iff.mpr ⟨front, g, back, rfl, ?_, ?_, ?_⟩⟩
    · exact fun g' member => input?_eq_none_iff.mpr (before g' member)
    · exact writes.input?_eq.symm
    · exact List.filterMap_eq_nil_iff.mpr fun g' member =>
        input?_eq_none_iff.mpr (behind g' member)

end Group

end TemplateLexer
