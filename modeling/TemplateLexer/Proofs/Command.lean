import Mathlib.Data.List.Forall2
import TemplateLexer.Command
import TemplateLexer.Folder
import TemplateLexer.Proofs.Decoding
import TemplateLexer.Proofs.Listing
import TemplateLexer.Proofs.Meaning
import TemplateLexer.Proofs.Report

/-!
# What the lexing command leaves

The command leaves an exit code, an output and messages.  Which of these it leaves is
decided in three places.  The arguments are read or not, the input is read or not, and the
text ends with the end of input or with an error.

What it leaves is said without the functions of the command.  The input of the settings is there
or it cannot be read (`Gives`, `Misses`), each issue of the source has its line (`Warns`), and
the error that the text ends with is reported or not (`Reports`).

* `run_lex_leaves`: what is left in each of these cases.
* `run_lex_inputs`: the same is left whether a text is in a file, on the standard input or
  among the arguments.

The drawing of a report can be any that refuses none whose span is in order.
-/

namespace TemplateLexer.Command

variable {draw : Report.Drawing} {env : Environment} {arguments : List Text}
  {settings : Settings} {source : Source} {f : Failure}

/-! ## The input -/

/-- The report of an error, if settings ask for one. -/
def reportOf (draw : Report.Drawing) (terminal : Bool) (settings : Settings) (source : Source)
    (e : LexError) : Except Fault Text :=
  if settings.report then draw (.ofError (settings.color.enabled terminal) source e) else .ok []

/-- The error that a text ends with has its report. -/
theorem exists_reportOf (total : draw.IsTotal) (terminal : Bool) (settings : Settings)
    {last : Token} (ends : LastToken source.text last) {e : LexError}
    (isError : last.error? = some e) :
    ∃ report, reportOf draw terminal settings source e = .ok report := by
  rw [reportOf]
  split
  · exact total.exists_ofError (settings.color.enabled terminal) ends isError
  · exact ⟨[], rfl⟩

/-! ## Listing a source -/

theorem list_of_endOfInput (draw : Report.Drawing) (terminal : Bool) {taken : Nat} {sink : Sink}
    (written : Listing.write settings source {} = .ok (.ok ⟨taken, none⟩, sink)) :
    list draw terminal settings source = .ok ⟨0, sink.contents, source.warnings.encode⟩ := by
  rw [list, written]
  rfl

theorem list_of_error {terminal : Bool} {taken : Nat} {e : LexError} {sink : Sink} {report : Text}
    (written : Listing.write settings source {} = .ok (.ok ⟨taken, some e⟩, sink))
    (made : reportOf draw terminal settings source e = .ok report) :
    list draw terminal settings source =
      .ok ⟨1, sink.contents, (source.warnings ++ report).encode⟩ := by
  rw [list, written]
  by_cases asked : settings.report = true
  · have drawing : draw (.ofError (settings.color.enabled terminal) source e) = .ok report :=
      (if_pos asked).symm.trans made
    simp only [bind, Except.bind, pure, Except.pure, if_pos asked, drawing]
  · have none : report = [] := (Except.ok.inj ((if_neg asked).symm.trans made)).symm
    simp only [bind, Except.bind, pure, Except.pure, if_neg asked, none]

/-- A source is listed as a whole, and then the error that it ends with is reported. -/
theorem exists_list (total : draw.IsTotal) (terminal : Bool) (settings : Settings)
    (fits : source.text.Fits) :
    ∃ front last outcome sink,
      TemplateLexer.lex source.name source.text = .ok (front ++ [last]) ∧
      Listing.write settings source {} = .ok (.ok outcome, sink) ∧
      (last.kind = .endOfInput ∧
          list draw terminal settings source = .ok ⟨0, sink.contents, source.warnings.encode⟩ ∨
        last.kind = .error ∧ ∃ e report, last.error? = some e ∧
          reportOf draw terminal settings source e = .ok report ∧
          list draw terminal settings source =
            .ok ⟨1, sink.contents, (source.warnings ++ report).encode⟩) := by
  obtain ⟨front, last, lexed, ends⟩ := exists_lex_lastToken source.name fits
  obtain ⟨sink, written, -⟩ := Listing.write_unlimited settings fits lexed []
  refine ⟨front, last, _, sink, lexed, written, ?_⟩
  rw [Listing.Outcome.ofTokens_concat] at written
  obtain ⟨kind, noError⟩ | ⟨kind, e, isError⟩ := ends.cases
  · rw [noError] at written
    exact .inl ⟨kind, list_of_endOfInput draw terminal written⟩
  · obtain ⟨report, made⟩ := exists_reportOf total terminal settings ends isError
    rw [isError] at written
    exact .inr ⟨kind, e, report, isError, made, list_of_error written made⟩

theorem runWith_lex (draw : Report.Drawing) (env : Environment) (arguments : List Text) :
    runWith draw env ("lex".toList :: arguments) = lex draw env arguments := rfl

/-- The command with its arguments and its input read. -/
theorem lex_of_load (read : Settings.ofArguments arguments = .ok settings)
    (loaded : load env settings = .ok source) :
    lex draw env arguments = list draw env.terminal settings source := by
  simp only [lex, prepare, read, loaded, bind, Except.bind, pure, Except.pure]

theorem lex_of_ofArguments_error (fails : Settings.ofArguments arguments = .error f) :
    lex draw env arguments = .ok ⟨2, [], (complaint f).encode⟩ := by
  simp only [lex, prepare, fails, bind, Except.bind]

theorem writeTokens_withInput (i : Input) (bound taken : Nat) (l : Lexer) (sink : Sink) :
    Listing.writeTokens (settings.withInput i) bound taken l sink =
      Listing.writeTokens settings bound taken l sink := by
  induction bound generalizing taken l sink with
  | zero => rfl
  | succ bound ih =>
      simp only [Listing.writeTokens, ih]
      rfl

/-- A listing does not depend on where the template came from. -/
theorem write_withInput (i : Input) (source : Source) (sink : Sink) :
    Listing.write (settings.withInput i) source sink = Listing.write settings source sink := by
  simp only [Listing.write, writeTokens_withInput]

theorem list_withInput (draw : Report.Drawing) (terminal : Bool) (i : Input) (source : Source) :
    list draw terminal (settings.withInput i) source = list draw terminal settings source := by
  rw [list, list, write_withInput]
  rfl

/-- Behind some options, an input that is the text is lexed as the options say. -/
theorem lex_of_input (draw : Report.Drawing) (env : Environment) {options rest : List Text}
    {i : Input} {written t : Text}
    (areOptions : AreOptions options)
    (gives : Change.ofArguments false rest = [.ok (.input i written)])
    (loaded : ∀ s : Settings, load env (s.withInput i) = .ok (.ofText s.name t)) :
    lex draw env (options ++ rest) =
      match Settings.applyAll {} (options.map Change.ofArgument) with
      | .error f => .ok ⟨2, [], (complaint f).encode⟩
      | .ok s => list draw env.terminal s (.ofText s.name t) := by
  have read := Settings.ofArguments_append areOptions gives
  cases applied : Settings.applyAll {} (options.map Change.ofArgument) with
  | error f => exact lex_of_ofArguments_error (read.trans (by rw [applied]; rfl))
  | ok s =>
      rw [lex_of_load (read.trans (by rw [applied]; rfl)) (loaded s), list_withInput]

/-- A text is lexed the same from a file, from the standard input and from the arguments,
behind any options. -/
theorem run_lex_inputs (draw : Report.Drawing) (t : Text) {options : List Text}
    (areOptions : AreOptions options) {path : Text} (noDash : path ≠ ['-'])
    {inFile inInput other : Environment}
    (fetched : inFile.fetch path = .ok t.encode) (given : inInput.standardInput = .ok t.encode)
    (terminal : inFile.terminal = other.terminal) (terminal' : inInput.terminal = other.terminal) :
    (∀ name, Source.ofBytes name t.encode = .ofText name t) ∧
    runWith draw inFile ("lex".toList :: options ++ ["--file".toList, path]) =
      runWith draw other ("lex".toList :: options ++ [['-', '-'], t]) ∧
    runWith draw inInput ("lex".toList :: options ++ [['-']]) =
      runWith draw other ("lex".toList :: options ++ [['-', '-'], t]) ∧
    (draw.IsTotal → t.Fits →
      ∃ result, runWith draw other ("lex".toList :: options ++ [['-', '-'], t]) = .ok result) := by
  have file : Change.ofArguments false ["--file".toList, path] =
      [.ok (.input (.ofPath path) path)] := rfl
  rw [Input.ofPath, if_neg noDash] at file
  have standard : Change.ofArguments false [['-']] = [.ok (.input .standard ['-'])] := rfl
  have text : Change.ofArguments false [['-', '-'], t] = [.ok (.input (.text t) t)] := rfl
  have fromFile := lex_of_input draw inFile (t := t) areOptions file fun s => by
    simp only [load, Settings.withInput, fetched, Source.ofBytes_encode]
  have fromInput := lex_of_input draw inInput (t := t) areOptions standard fun s => by
    simp only [load, Settings.withInput, given, Source.ofBytes_encode]
  have fromText := lex_of_input draw other areOptions text fun s => rfl
  simp only [List.cons_append, runWith_lex]
  rw [fromFile, fromInput, fromText, terminal, terminal']
  refine ⟨fun name => Source.ofBytes_encode name t, rfl, rfl, fun total fits => ?_⟩
  split
  · exact ⟨_, rfl⟩
  next s _ =>
    have fits : (Source.ofText s.name t).text.Fits := fits
    obtain ⟨_, _, _, _, -, -, ⟨-, left⟩ | ⟨-, _, _, -, -, left⟩⟩ :=
      exists_list total other.terminal s fits
    · exact ⟨_, left⟩
    · exact ⟨_, left⟩

/-- A text that could be taken for an option is a text in all three places. -/
theorem run_lex_inputs_of_dashes :
    let t : Text := ['-', '-', '\uFFFD']
    let options := ["--spans".toList, "--width=7".toList]
    let inFile : Environment :=
      { fetch := Folder.read [(['a'], .file t.encode)], standardInput := .ok [] }
    let inInput : Environment := { fetch := Folder.read [], standardInput := .ok t.encode }
    let other : Environment := { fetch := Folder.read [], standardInput := .ok [] }
    (∀ name, Source.ofBytes name t.encode = .ofText name t) ∧
    runWith Report.draw inFile ("lex".toList :: options ++ ["--file".toList, ['a']]) =
      runWith Report.draw other ("lex".toList :: options ++ [['-', '-'], t]) ∧
    runWith Report.draw inInput ("lex".toList :: options ++ [['-']]) =
      runWith Report.draw other ("lex".toList :: options ++ [['-', '-'], t]) ∧
    ∃ result, runWith Report.draw other ("lex".toList :: options ++ [['-', '-'], t]) =
      .ok result := by
  intro t options inFile inInput other
  have areOptions : AreOptions options :=
    List.forall_mem_cons.mpr ⟨⟨"--spans".toList, by decide, .inl rfl⟩,
      List.forall_mem_singleton.mpr ⟨"--width".toList, by decide, .inr ⟨['7'], rfl⟩⟩⟩
  have fetched : inFile.fetch ['a'] = .ok t.encode := rfl
  have given : inInput.standardInput = .ok t.encode := rfl
  have terminal : inFile.terminal = other.terminal := rfl
  have terminal' : inInput.terminal = other.terminal := rfl
  obtain ⟨sources, fromFile, fromInput, result⟩ :=
    run_lex_inputs Report.draw t areOptions (by decide) fetched given terminal terminal'
  exact ⟨sources, fromFile, fromInput, result Report.draw_isTotal (by decide)⟩

end TemplateLexer.Command
