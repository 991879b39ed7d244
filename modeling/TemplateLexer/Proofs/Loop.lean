import TemplateLexer.Proofs.Safety

/-!
# Loops end within their bounds

Four loops take a bound on their rounds: blanks in a block, valid characters in a row, the
steps up to a token, and the requests of a drain.  The bound decides nothing.  Each loop ends
within the rounds that it is given, and with more of them it gives the same result
(`EndsWithin`).

The two loops of a reader end wherever the reader stands, since every round but the last one
reads a character.  The other two rely on what is ahead of the lexer, and so they end for every
lexer that comes up in a run.
-/

namespace TemplateLexer

open Text

/-- A loop ends within some rounds.  It does not run into its bound then, and a larger bound
does not change the result. -/
structure EndsWithin {α : Type} (loop : Nat → Except Fault α) (rounds : Nat) : Prop where
  ends : loop rounds ≠ .error .stalled
  same : ∀ bound, rounds ≤ bound → loop bound = loop rounds

namespace EndsWithin

variable {α : Type} {loop later : Nat → Except Fault α} {n m : Nat}

theorem mono (ends : EndsWithin loop n) (more : n ≤ m) : EndsWithin loop m where
  ends := by
    rw [ends.same m more]
    exact ends.ends
  same bound enough := by rw [ends.same m more, ends.same bound (Nat.le_trans more enough)]

/-- A loop of one round. -/
theorem of_result {result : Except Fault α} (round : ∀ bound, loop (bound + 1) = result)
    (ends : result ≠ .error .stalled) (n : Nat) : EndsWithin loop (n + 1) where
  ends := by
    rw [round]
    exact ends
  same bound enough := by
    obtain ⟨bound, rfl⟩ := Nat.exists_eq_add_of_lt enough
    rw [round, round]

/-- A loop that goes on after a round. -/
theorem of_round (round : ∀ bound, loop (bound + 1) = later bound) (ends : EndsWithin later n) :
    EndsWithin loop (n + 1) where
  ends := by
    rw [round]
    exact ends.ends
  same bound enough := by
    obtain ⟨bound, rfl⟩ := Nat.exists_eq_add_one.mpr (Nat.zero_lt_of_lt enough)
    rw [round, round]
    exact ends.same bound (Nat.le_of_succ_le_succ enough)

/-- A loop of which a result stays with one more round. -/
theorem of_succ (stays : ∀ bound, loop bound ≠ .error .stalled → loop (bound + 1) = loop bound)
    (ends : loop n ≠ .error .stalled) : EndsWithin loop n where
  ends := ends
  same bound enough := by
    induction enough with
    | refl => rfl
    | step _ ih =>
        rw [← ih] at ends
        rw [stays _ ends, ih]

/-- A loop that faults in its first round. -/
theorem of_fault {fault : Fault} (round : ∀ bound, loop (bound + 1) = .error fault)
    (other : fault ≠ .stalled) (n : Nat) : EndsWithin loop (n + 1) := by
  refine of_result round ?_ n
  intro stalls
  exact other (Except.error.inj stalls)

end EndsWithin

theorem ok_ne_stalled {α : Type} (a : α) : (.ok a : Except Fault α) ≠ .error .stalled := by
  intro stalls
  cases stalls

theorem bind_ne_stalled {α β : Type} {first : Except Fault α} {next : α → Except Fault β}
    (ends : first ≠ .error .stalled) (endsNext : ∀ a, next a ≠ .error .stalled) :
    first >>= next ≠ .error .stalled := by
  cases first with
  | error fault => simpa [bind, Except.bind] using ends
  | ok a => exact endsNext a

/-! ## Loops of a reader -/

namespace Reader

theorem sub_ne_stalled (m n : Nat) : Offset.sub m n ≠ .error .stalled := by
  rw [Offset.sub]
  split
  · exact ok_ne_stalled _
  · intro stalls
    cases stalls

theorem unread_ne_stalled (r : Reader) : r.unread ≠ .error .stalled := by
  rw [unread]
  cases r.width? with
  | none =>
      intro stalls
      cases stalls
  | some width => exact bind_ne_stalled (sub_ne_stalled _ _) (fun _ => ok_ne_stalled _)

/-- The rest is there and no longer than the text, unless the reader is off the boundaries. -/
theorem rest_cases (r : Reader) :
    r.rest = .error .badSlice ∨ ∃ rest, r.rest = .ok rest ∧ rest.length ≤ r.text.length := by
  rw [Reader.rest]
  cases dropped : r.text.dropBytes? r.pos with
  | none => exact Or.inl rfl
  | some rest =>
      obtain ⟨read, text, _⟩ := eq_append_of_dropBytes? dropped
      refine Or.inr ⟨rest, rfl, ?_⟩
      rw [text, List.length_append]
      exact Nat.le_add_left _ _

theorem read_of_nil {r : Reader} (there : r.rest = .ok []) :
    r.read = .ok (none, { r with width? := some 0 }) := by
  simp only [read, there, bind, Except.bind, pure, Except.pure]

/-- A read takes the first character off the rest, unless the offset overflows. -/
theorem read_of_cons {r : Reader} {c : Char} {rest : Text} (there : r.rest = .ok (c :: rest)) :
    r.read = .error .addOverflow ∨ ∃ r', r.read = .ok (some c, r') ∧ r'.rest = .ok rest := by
  simp only [read, there, bind, Except.bind, pure, Except.pure]
  by_cases fits : r.pos + c.utf8Size ≤ Offset.limit
  · rw [Offset.add_eq_ok fits]
    refine Or.inr ⟨_, rfl, ?_⟩
    cases dropped : r.text.dropBytes? r.pos with
    | none => simp [Reader.rest, dropped, Fault.ofSlice] at there
    | some t =>
        simp only [Reader.rest, dropped, Fault.ofSlice, Except.ok.injEq] at there
        obtain ⟨before, text, pos⟩ := eq_append_of_dropBytes? dropped
        have behind : r.text.dropBytes? (r.pos + c.utf8Size) = some rest := by
          rw [text, there, List.append_cons, ← pos]
          simpa using dropBytes?_append (before ++ [c]) rest
        simp only [Reader.rest, behind, Fault.ofSlice]
  · rw [Offset.add, if_neg fits]
    exact Or.inl rfl

theorem readWhileWithin_endsWithin_of_rest (valid : Char → Bool) {rest : Text} {r : Reader}
    (there : r.rest = .ok rest) :
    EndsWithin (fun bound => readWhileWithin valid bound r) (rest.length + 1) := by
  induction rest generalizing r with
  | nil =>
      refine .of_result ?_ (unread_ne_stalled { r with width? := some 0 }) _
      intro bound
      simp only [readWhileWithin, read_of_nil there, bind, Except.bind, Option.any_none]
      rfl
  | cons c rest ih =>
      rcases read_of_cons there with fault | ⟨r', taken, there'⟩
      · have faults : ∀ bound, readWhileWithin valid (bound + 1) r = .error .addOverflow := by
          intro bound
          simp only [readWhileWithin, fault, bind, Except.bind]
        exact .of_fault faults (by simp) _
      · by_cases accepted : valid c = true
        · refine .of_round ?_ (ih there')
          intro bound
          simp only [readWhileWithin, taken, bind, Except.bind, Option.any_some, accepted, if_true]
        · refine .of_result ?_ (unread_ne_stalled r') _
          intro bound
          simp only [readWhileWithin, taken, bind, Except.bind, Option.any_some, accepted]
          rfl

/-- A run of valid characters ends, wherever it begins. -/
theorem readWhileWithin_endsWithin (valid : Char → Bool) (r : Reader) :
    EndsWithin (fun bound => readWhileWithin valid bound r) (r.text.length + 1) := by
  rcases r.rest_cases with bad | ⟨rest, there, short⟩
  · have faults : ∀ bound, readWhileWithin valid (bound + 1) r = .error .badSlice := by
      intro bound
      simp only [readWhileWithin, read, bad, bind, Except.bind]
    exact .of_fault faults (by simp) _
  · exact (readWhileWithin_endsWithin_of_rest valid there).mono (Nat.succ_le_succ short)

end Reader

/-! ## Blanks -/

namespace Step

open Reader

theorem haltWith_ne_stalled (cause : LexError.Cause) (r : Reader) :
    haltWith cause r ≠ .error .stalled := by
  have spans : r.lastSpan ≠ .error .stalled :=
    bind_ne_stalled (sub_ne_stalled _ _) (fun _ => ok_ne_stalled _)
  exact bind_ne_stalled spans (fun _ => ok_ne_stalled _)

theorem isAt_of_rest {rest pattern : Text} {r : Reader} (there : r.rest = .ok rest) :
    r.isAt pattern = .ok (pattern.isPrefixOf rest) := by
  simp only [isAt, there, bind, Except.bind, pure, Except.pure]

/-- Past a character that is read, the character decides how the blanks go on. -/
theorem blockWithin_endsWithin_of_read {c : Char} {rest : Text} {r r' : Reader} {n : Nat}
    (there : r.rest = .ok (c :: rest)) (noClosing : ¬ rightDelimiter.isPrefixOf (c :: rest) = true)
    (taken : r.read = .ok (some c, r'))
    (later : EndsWithin (fun bound => blockWithin bound r'.dropLexeme) n) :
    EndsWithin (fun bound => blockWithin bound r) (n + 1) := by
  have round : ∀ bound, blockWithin (bound + 1) r =
      if c = '\n' then haltWith .unclosedBlock r'
      else if isBlank c then blockWithin bound r'.dropLexeme
      else if startsNumber c then do return ⟨← r'.unread, [], [], some .number⟩
      else haltWith (.unexpectedCharacter c) r' := by
    intro bound
    simp only [blockWithin, isAt_of_rest there, noClosing, taken, bind, Except.bind]
    rfl
  by_cases newline : c = '\n'
  · refine .of_result ?_ (haltWith_ne_stalled .unclosedBlock r') _
    intro bound
    rw [round, if_pos newline]
  by_cases blank : isBlank c = true
  · refine .of_round ?_ later
    intro bound
    rw [round, if_neg newline, if_pos blank]
  by_cases starts : startsNumber c = true
  · have undone : (do return ⟨← r'.unread, [], [], some .number⟩ : Except Fault Step) ≠
        .error .stalled := bind_ne_stalled (unread_ne_stalled r') (fun _ => ok_ne_stalled _)
    refine .of_result ?_ undone _
    intro bound
    rw [round, if_neg newline, if_neg blank, if_pos starts]
  · refine .of_result ?_ (haltWith_ne_stalled (.unexpectedCharacter c) r') _
    intro bound
    rw [round, if_neg newline, if_neg blank, if_neg starts]

theorem blockWithin_endsWithin_of_rest {rest : Text} {r : Reader} (there : r.rest = .ok rest) :
    EndsWithin (fun bound => blockWithin bound r) (rest.length + 1) := by
  induction rest generalizing r with
  | nil =>
      have noClosing : rightDelimiter.isPrefixOf ([] : Text) = false := rfl
      refine .of_result ?_ (haltWith_ne_stalled .unclosedBlock { r with width? := some 0 }) _
      intro bound
      simp only [blockWithin, isAt_of_rest there, noClosing, read_of_nil there, bind, Except.bind,
        Bool.false_eq_true, if_false]
  | cons c rest ih =>
      by_cases closing : rightDelimiter.isPrefixOf (c :: rest) = true
      · by_cases held : r.hasLexeme = true
        · have faults : ∀ bound, blockWithin (bound + 1) r = .error .lexemeBeforeClosing := by
            intro bound
            simp only [blockWithin, isAt_of_rest there, closing, held, bind, Except.bind, if_true]
            rfl
          exact .of_fault faults (by simp) _
        · have goes : ∀ bound, blockWithin (bound + 1) r = .ok ⟨r, [], [], some .closing⟩ := by
            intro bound
            simp only [blockWithin, isAt_of_rest there, closing, held, bind, Except.bind, if_true]
            rfl
          exact .of_result goes (ok_ne_stalled _) _
      rcases read_of_cons there with fault | ⟨r', taken, there'⟩
      · have faults : ∀ bound, blockWithin (bound + 1) r = .error .addOverflow := by
          intro bound
          simp only [blockWithin, isAt_of_rest there, closing, fault, bind, Except.bind]
          rfl
        exact .of_fault faults (by simp) _
      · have dropped : r'.dropLexeme.rest = .ok rest := there'
        exact blockWithin_endsWithin_of_read there closing taken (ih dropped)

/-- The blanks of a block end, wherever the reader stands. -/
theorem blockWithin_endsWithin (r : Reader) :
    EndsWithin (fun bound => blockWithin bound r) (r.text.length + 1) := by
  rcases r.rest_cases with bad | ⟨rest, there, short⟩
  · have faults : ∀ bound, blockWithin (bound + 1) r = .error .badSlice := by
      intro bound
      simp only [blockWithin, isAt, bad, bind, Except.bind]
    exact .of_fault faults (by simp) _
  · exact (blockWithin_endsWithin_of_rest there).mono (Nat.succ_le_succ short)

end Step

/-! ## Loops of a lexer -/

namespace Lexer

variable {l l' : Lexer} {visits : List Visit}

/-- The bound does not matter, or it counts the step that the lexer is about to take. -/
theorem nextTokenWithin_cases (l : Lexer) :
    (∃ result, ∀ bound, nextTokenWithin bound l = result) ∨
      nextTokenWithin 0 l = .error .stalled ∧
        ∃ mode, ∀ bound, nextTokenWithin (bound + 1) l = l.run mode >>= nextTokenWithin bound := by
  cases front : l.queue with
  | cons t queue =>
      refine Or.inl ⟨.ok (t, l.handOut t queue), ?_⟩
      intro bound
      exact nextTokenWithin_of_queue bound front
  | nil =>
      cases finished : l.finished with
      | true =>
          refine Or.inl ⟨.ok (.ofEnd l.text.size, l), ?_⟩
          intro bound
          rw [nextTokenWithin]
          simp only [front, finished, if_true]
      | false =>
          cases goes : l.mode? with
          | none =>
              refine Or.inl ⟨.error .haltedWithoutTerminal, ?_⟩
              intro bound
              rw [nextTokenWithin]
              simp only [front, finished, goes]
              rfl
          | some mode =>
              refine Or.inr ⟨?_, mode, ?_⟩
              · rw [nextTokenWithin]
                simp only [front, finished, goes]
                rfl
              · intro bound
                rw [nextTokenWithin]
                simp only [front, finished, goes]
                rfl

/-- A token that is found is found with more steps allowed. -/
theorem nextTokenWithin_stays {bound : Nat} (ends : nextTokenWithin bound l ≠ .error .stalled) :
    nextTokenWithin (bound + 1) l = nextTokenWithin bound l := by
  induction bound generalizing l with
  | zero =>
      rcases l.nextTokenWithin_cases with ⟨result, settled⟩ | ⟨stalls, _⟩
      · rw [settled, settled]
      · exact absurd stalls ends
  | succ bound ih =>
      rcases l.nextTokenWithin_cases with ⟨result, settled⟩ | ⟨_, mode, round⟩
      · rw [settled, settled]
      · rw [round] at ends
        rw [round, round]
        cases ran : l.run mode with
        | error fault => rfl
        | ok l' =>
            rw [ran] at ends
            exact ih ends

/-- The steps up to a token end. -/
theorem Ahead.nextTokenWithin_endsWithin (ahead : l.Ahead visits) :
    EndsWithin (fun bound => nextTokenWithin bound l) stepBound := by
  refine .of_succ (fun bound => nextTokenWithin_stays) ?_
  by_cases nothing : l.owed visits = []
  · have idle := ahead.nextToken_of_nil nothing
    rw [Lexer.nextToken] at idle
    rw [idle]
    exact ok_ne_stalled _
  · obtain ⟨t, l', later, taken, _⟩ := ahead.nextToken nothing
    rw [Lexer.nextToken] at taken
    rw [taken]
    exact ok_ne_stalled _

theorem drainWithin_stays {bound : Nat} (ends : drainWithin bound l ≠ .error .stalled) :
    drainWithin (bound + 1) l = drainWithin bound l := by
  induction bound generalizing l with
  | zero => exact absurd rfl ends
  | succ bound ih =>
      rw [drainWithin] at ends
      rw [drainWithin, drainWithin]
      cases taken : l.next? with
      | error fault => rfl
      | ok answer =>
          obtain ⟨t?, l'⟩ := answer
          rw [taken] at ends
          cases t? with
          | none => rfl
          | some t =>
              have endsLater : l'.drainWithin bound ≠ .error .stalled := by
                intro stalls
                simp only [stalls, bind, Except.bind] at ends
                exact ends rfl
              simp only [ih endsLater, bind, Except.bind]

/-- The requests of a drain end. -/
theorem Ahead.drainWithin_endsWithin (ahead : l.Ahead visits) :
    EndsWithin (fun bound => l.drainWithin bound) (l.text.size + 2) := by
  refine .of_succ (fun bound => drainWithin_stays) ?_
  obtain ⟨l', drained, _⟩ := ahead.drain
  rw [Lexer.drain] at drained
  rw [drained]
  exact ok_ne_stalled _

end Lexer

end TemplateLexer
