import TemplateLexer.Output.Listing
import TemplateLexer.Proofs.Run
import TemplateLexer.Proofs.Sink

/-!
# What a listing writes

A listing takes tokens from the lexer one by one, and writes each before it takes the next
one.  So it writes the lines of the tokens that the lexer owes, in order, up to the first
write that fails.  `writeLines` does that with the tokens as a list, and `writeTokens_eq`
says that it is the same.

The bound on the number of requests is never reached, since a text has fewer tokens than
it has bytes and one more.

* `write_eq_writeEach`: the listing of a source, on any sink, writes the header and then a line
  for each token of its text that is listed.
* `write_unlimited`: without a limit to the sink all of them are written.
-/

namespace TemplateLexer

theorem Text.encode_flatten (texts : List Text) :
    encode texts.flatten = (texts.map encode).flatten := by
  induction texts with
  | nil => rfl
  | cons t texts ih => rw [List.flatten_cons, encode_append, ih, List.map_cons, List.flatten_cons]

namespace Listing

variable {settings : Settings}

/-! ## Lines without a lexer -/

/-- Writes the lines of some tokens, up to the first write that fails. -/
def writeLines (settings : Settings) : List Token → Sink → Except Failure Unit × Sink
  | [], sink => (.ok (), sink)
  | t :: tokens, sink =>
      match writeToken settings t sink with
      | (.error failure, sink) => (.error failure, sink)
      | (.ok (), sink) => writeLines settings tokens sink

/-- The lines of some tokens. -/
def lines (settings : Settings) (tokens : List Token) : Text :=
  (tokens.filter (isListed settings)).flatMap (line settings)

/-- The lines are written one after another. -/
theorem writeLines_eq (settings : Settings) (tokens : List Token) (sink : Sink) :
    writeLines settings tokens sink =
      sink.writeEach ((tokens.filter (isListed settings)).map (line settings)) := by
  induction tokens generalizing sink with
  | nil => rfl
  | cons t tokens ih =>
      by_cases listed : isListed settings t = true
      · rw [List.filter_cons_of_pos listed, List.map_cons, writeLines, writeToken, if_pos listed,
          Sink.writeEach]
        obtain ⟨failure | ⟨⟩, sink⟩ := sink.write (line settings t)
        · rfl
        · exact ih sink
      · rw [List.filter_cons_of_neg listed, ← ih]
        simp only [writeLines, writeToken, if_neg listed]

/-- What a listing found if it took some tokens after others. -/
def Outcome.ofTokens (taken : Nat) (tokens : List Token) : Outcome :=
  ⟨taken + tokens.length, tokens.getLast?.bind (·.error?)⟩

theorem Outcome.ofTokens_singleton (taken : Nat) (t : Token) :
    ofTokens taken [t] = ⟨taken + 1, t.error?⟩ := rfl

/-- With a token in front of others one more is taken. -/
theorem Outcome.ofTokens_cons (taken : Nat) (t : Token) {tokens : List Token}
    (nonempty : tokens ≠ []) : ofTokens taken (t :: tokens) = ofTokens (taken + 1) tokens := by
  rw [ofTokens, ofTokens, List.length_cons, List.getLast?_cons_of_ne_nil nonempty]
  congr 1
  omega

theorem Outcome.ofTokens_concat (taken : Nat) (front : List Token) (last : Token) :
    ofTokens taken (front ++ [last]) = ⟨taken + (front ++ [last]).length, last.error?⟩ := by
  rw [ofTokens, List.getLast?_concat, Option.bind_some]

/-- What is written and found of some tokens, after others. -/
def writeAll (settings : Settings) (taken : Nat) (tokens : List Token) (sink : Sink) :
    Except Failure Outcome × Sink :=
  match writeLines settings tokens sink with
  | (.error failure, sink) => (.error failure, sink)
  | (.ok (), sink) => (.ok (.ofTokens taken tokens), sink)

/-! ## Lines from a lexer -/

/-- A listing writes the lines of the tokens that the lexer owes. -/
theorem writeTokens_eq {l : Lexer} {visits : List Visit} {bound : Nat} (ahead : l.Ahead visits)
    (ends : EndsOnce (l.owed visits)) (enough : (l.owed visits).length ≤ bound) (taken : Nat)
    (sink : Sink) :
    writeTokens settings bound taken l sink =
      .ok (writeAll settings taken (l.owed visits) sink) := by
  induction bound generalizing l visits taken sink with
  | zero => exact absurd (List.length_eq_zero_iff.mp (Nat.le_zero.mp enough)) ends.ne_nil
  | succ bound ih =>
      obtain ⟨t, l', later, request, serves⟩ := ahead.nextToken ends.ne_nil
      have owes : l.owed visits = t :: l'.owed later := serves.owed
      rw [owes] at ends enough ⊢
      simp only [writeTokens, request, bind, Except.bind, pure, Except.pure, writeAll, writeLines]
      generalize writeToken settings t sink = written
      obtain ⟨failure | ⟨⟩, sink⟩ := written
      · rfl
      generalize remains : l'.owed later = tokens at ends enough
      cases ends with
      | last ends => simp only [ends, if_true, writeLines, Outcome.ofTokens_singleton]
      | cons goes ends =>
          have next := ih serves.ahead (remains ▸ ends) (remains ▸ Nat.le_of_succ_le_succ enough)
            (taken + 1) sink
          rw [remains] at next
          simp only [goes, next, Outcome.ofTokens_cons taken t ends.ne_nil]
          rfl

/-- The listing of a source by the tokens of its text. -/
theorem write_eq {source : Source} {tokens : List Token} (fits : source.text.Fits)
    (lexed : lex source.name source.text = .ok tokens) (sink : Sink) :
    write settings source sink =
      match sink.write (header source.text) with
      | (.error failure, sink) => .ok (.error failure, sink)
      | (.ok (), sink) => .ok (writeAll settings 0 tokens sink) := by
  obtain ⟨visits, run⟩ := exists_run_of_text source.text
  rw [lex_of_run source.name fits run, Except.ok.injEq] at lexed
  subst lexed
  rw [write]
  generalize sink.write (header source.text) = written
  obtain ⟨failure | ⟨⟩, sink⟩ := written
  · rfl
  · exact writeTokens_eq (Lexer.ahead_ofText source.name fits run) run.endsOnce run.length_le 0 _

/-- The texts that a listing writes, one after another. -/
def texts (settings : Settings) (template : Text) (tokens : List Token) : List Text :=
  header template :: (tokens.filter (isListed settings)).map (line settings)

theorem encode_texts (settings : Settings) (template : Text) (tokens : List Token) :
    ((texts settings template tokens).map Text.encode).flatten =
      (header template ++ lines settings tokens).encode := by
  rw [← Text.encode_flatten, texts, List.flatten_cons, lines, List.flatMap_def]

/-- The listing of a source writes the header and the lines, up to the first write that fails.
What it finds is what the tokens say, unless a write fails. -/
theorem write_eq_writeEach (settings : Settings) {source : Source} {tokens : List Token}
    (fits : source.text.Fits) (lexed : lex source.name source.text = .ok tokens) (sink : Sink) :
    write settings source sink =
      .ok ((sink.writeEach (texts settings source.text tokens)).1.map fun _ => .ofTokens 0 tokens,
        (sink.writeEach (texts settings source.text tokens)).2) := by
  rw [write_eq fits lexed, texts, Sink.writeEach]
  obtain ⟨failure | ⟨⟩, sink⟩ := sink.write (header source.text)
  · rfl
  simp only [writeAll, writeLines_eq]
  obtain ⟨failure | ⟨⟩, sink⟩ := sink.writeEach _
  · rfl
  · rfl

/-- Without a limit to the sink a listing is the header and the lines of the tokens. -/
theorem write_unlimited (settings : Settings) {source : Source} {tokens : List Token}
    (fits : source.text.Fits) (lexed : lex source.name source.text = .ok tokens)
    (chunks : List Bytes) :
    ∃ sink, write settings source ⟨none, chunks⟩ = .ok (.ok (.ofTokens 0 tokens), sink) ∧
      sink.contents = Sink.contents ⟨none, chunks⟩ ++
        (header source.text ++ lines settings tokens).encode := by
  refine ⟨_, by rw [write_eq_writeEach settings fits lexed, Sink.writeEach_unlimited]; rfl, ?_⟩
  rw [Sink.contents_append, encode_texts]

end Listing

end TemplateLexer
