import TemplateLexer.Output.Listing
import TemplateLexer.Output.Report
import TemplateLexer.Settings.Arguments

/-!
# The command line

The first argument is a command, and `lex` is the one that does something.  Its
output is the listing of a template.  Beside it go a warning for each issue of the
source, and then the report of an error, as some drawing has it.

The exit code is zero if the template has no error, one if it has, and two after a
failure.  A failure in the arguments is followed by the usage of the command.

Files, the standard input and the terminal are an `Environment`, so what a command
does is a function of it and of the arguments.
-/

namespace TemplateLexer

/-! ## Where a command runs -/

/-- What surrounds a command. -/
structure Environment where
  /-- The bytes of the file at a path. -/
  fetch : Text → Except SystemError Bytes
  /-- The bytes of the standard input. -/
  standardInput : Except SystemError Bytes
  /-- Whether messages go to a terminal. -/
  terminal : Bool := false

/-- What a command leaves behind. -/
structure Result where
  exit : Nat
  output : Bytes
  /-- The messages beside the output. -/
  messages : Bytes
deriving DecidableEq, Repr

namespace Result

/-- A result with an output alone. -/
def ofOutput (t : Text) : Result := ⟨0, t.encode, []⟩

end Result

namespace Command

variable (draw : Report.Drawing)

/-! ## Help -/

/-- Texts as lines. -/
def ofLines (lines : List String) : Text := lines.flatMap fun line => line.toList ++ ['\n']

/-- What the program can do. -/
def usage : Text := ofLines [
  "Stencil template lexer",
  "",
  "Usage: stencil <command> [options]",
  "",
  "Commands:",
  "  lex <text>           Lex template text and print its items",
  "  lex --file <path>    Lex a file (use - for stdin)",
  "  help                 Show this help message",
  "  version              Show version information",
  "",
  "Set RUST_LOG=stencil_lexer=trace to follow the scanner state by state."]

/-- What the lexing command can do. -/
def lexUsage : Text := ofLines [
  "Usage: stencil lex [options] <text>",
  "       stencil lex [options] --file <path>",
  "",
  "Options:",
  "  --name=<label>       Scanner name (default: number lexer)",
  "  --spans              Print byte span and kind for each item",
  "  --width=<n>          Characters shown per item (default: 10)",
  "  --show-eof           Also print the end-of-input item",
  "  --no-report          Skip the source report on scan errors",
  "  --color=<mode>       Report colors: auto, always, never",
  "  --                   Treat the next argument as text"]

/-- The version of the program. -/
def version : Text := ofLines ["stencil 0.1.0"]

/-! ## Lexing -/

/-- The source that the settings name. -/
def load (env : Environment) (settings : Settings) : Except Failure Source :=
  match settings.input? with
  | none => .error .missingInput
  | some (.text t) => .ok (.ofText settings.name t)
  | some (.file path) =>
      match env.fetch path with
      | .ok bytes => .ok (.ofBytes settings.name bytes)
      | .error e => .error (.read path e)
  | some .standard =>
      match env.standardInput with
      | .ok bytes => .ok (.ofBytes settings.name bytes)
      | .error e => .error (.read "<stdin>".toList e)

/-- The message about a failure. -/
def complaint (f : Failure) : Text :=
  "error: ".toList ++ f.message ++ '\n' :: if f.inArguments then '\n' :: lexUsage else []

/-- The settings that some arguments ask for, and the source that they name. -/
def prepare (env : Environment) (arguments : List Text) : Except Failure (Settings × Source) := do
  let settings ← Settings.ofArguments arguments
  return (settings, ← load env settings)

/-- Lists a source and reports its error. -/
def list (terminal : Bool) (settings : Settings) (source : Source) : Except Fault Result := do
  let (outcome, sink) ← Listing.write settings source {}
  match outcome with
  | .error f => return ⟨2, sink.contents, (source.warnings ++ complaint f).encode⟩
  | .ok ⟨_, none⟩ => return ⟨0, sink.contents, source.warnings.encode⟩
  | .ok ⟨_, some e⟩ =>
      let report ←
        if settings.report then draw (.ofError (settings.color.enabled terminal) source e)
        else pure []
      return ⟨1, sink.contents, (source.warnings ++ report).encode⟩

/-- Lexes what the arguments ask for. -/
def lex (env : Environment) (arguments : List Text) : Except Fault Result :=
  match prepare env arguments with
  | .error f => .ok ⟨2, [], (complaint f).encode⟩
  | .ok (settings, source) => list draw env.terminal settings source

/-! ## Commands -/

/-- The message about a command that is none. -/
def unknown (command : Text) : Text := "Unknown command: ".toList ++ command ++ ['\n', '\n']

/-- Runs the command that the arguments begin with. -/
def runWith (env : Environment) : List Text → Except Fault Result
  | [] => .ok (.ofOutput usage)
  | command :: arguments =>
      if command = "lex".toList then lex draw env arguments
      else if command ∈ ["help", "--help", "-h"].map String.toList then .ok (.ofOutput usage)
      else if command ∈ ["version", "--version", "-V"].map String.toList then
        .ok (.ofOutput version)
      else .ok ⟨2, usage.encode, Text.encode (unknown command)⟩

/-- The input that a command is going to read. -/
def inputOf? : List Text → Option Input
  | [] => none
  | command :: arguments =>
      if command = "lex".toList then (Settings.ofArguments arguments).toOption.bind (·.input?)
      else none

end Command

end TemplateLexer
