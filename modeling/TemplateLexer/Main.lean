import TemplateLexer.Command

/-!
# The program

Reads what the command asks for, runs the command, and writes what it leaves.
-/

namespace TemplateLexer.Main

/-- An error by its number, which can be given with a sign, or else in these words. -/
def ofCode (code : UInt32) (words : String) : SystemError :=
  let number := min code.toNat (-code).toNat
  (SystemError.ofNumber? number).getD
    ⟨.other, words.toList ++ " (os error ".toList ++ Text.decimal number ++ [')']⟩

/-- An error of the system as the library knows it. -/
def describe : IO.Error → SystemError
  | .noFileOrDirectory .. => .notFound
  | .permissionDenied _ _ words => ⟨.permissionDenied, words.toList⟩
  | .inappropriateType _ code words | .otherError code words
  | .resourceExhausted _ code words | .invalidArgument _ code words => ofCode code words
  | e => ⟨.other, e.toString.toList⟩

/-- The bytes that an action reads, or its error. -/
def attempt (action : IO ByteArray) : IO (Except SystemError Bytes) := do
  try return .ok (← action).toList catch e => return .error (describe e)

/-- The environment of a command, in which it finds the input it is going to read. -/
def environment (arguments : List Text) : IO Environment := do
  let bytes ← match Command.inputOf? arguments with
    | some (.file path) => attempt (IO.FS.readBinFile (String.ofList path))
    | some .standard => attempt do (← IO.getStdin).readBinToEnd
    | some (.text _) | none => pure (.ok [])
  return { fetch := fun _ => bytes, standardInput := bytes,
           terminal := ← (← IO.getStderr).isTty }

/-- Writes what a command leaves.  Returns the exit code. -/
def leave (result : Result) : IO UInt32 := do
  let output ← IO.getStdout
  let messages ← IO.getStderr
  try
    output.write ⟨result.output.toArray⟩
    output.flush
    messages.write ⟨result.messages.toArray⟩
    return result.exit.toUInt32
  catch e =>
    let failure := Failure.write (describe e)
    messages.write ⟨(Command.complaint failure).encode.toArray⟩
    return 2

end TemplateLexer.Main

open TemplateLexer in
/-- Runs the command that the arguments begin with. -/
def main (arguments : List String) : IO UInt32 := do
  let arguments := arguments.map String.toList
  match Command.run (← Main.environment arguments) arguments with
  | .ok result => Main.leave result
  | .error fault =>
      (← IO.getStderr).putStrLn (String.ofList (fault.message?.getD "internal fault".toList))
      return 101
