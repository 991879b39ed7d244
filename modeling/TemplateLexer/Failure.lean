import TemplateLexer.SystemError

/-!
# Failures

A failure ends the program before it has lexed its input.  An error of the
template is not a failure.  *Usage* failures are in the arguments, and the others
come from reading or writing.

A file that is not there and one that may not be read have messages of their own.
All other errors of the system keep its words.
-/

namespace TemplateLexer

/-- A reason to stop. -/
inductive Failure where
  | missingInput
  /-- An argument that starts with a dash and is no option. -/
  | unknownOption (argument : Text)
  /-- An option without its value. -/
  | missingValue (option : Text)
  /-- An option with a value that is not as expected. -/
  | invalidValue (option value expected : Text)
  /-- An argument that gives a second input. -/
  | unexpectedArgument (argument : Text)
  | read (path : Text) (error : SystemError)
  | write (error : SystemError)
deriving DecidableEq, Repr

namespace Failure

/-- Whether the failure is in the arguments. -/
def inArguments : Failure → Bool
  | missingInput | unknownOption _ | missingValue _ | invalidValue .. | unexpectedArgument _ => true
  | read .. | write _ => false

/-- A text between apostrophes. -/
private def marked (t : Text) : Text := '\'' :: (t ++ ['\''])

/-- The message of a failure. -/
def message : Failure → Text
  | missingInput => "missing input: pass template text or --file <path>".toList
  | unknownOption argument => "unknown option ".toList ++ marked argument
  | missingValue option => "option ".toList ++ marked option ++ " needs a value".toList
  | invalidValue option value expected =>
      "invalid value ".toList ++ marked value ++ " for ".toList ++ option ++
        ": expected ".toList ++ expected
  | unexpectedArgument argument =>
      "unexpected argument ".toList ++ marked argument ++ ": only one input may be given".toList
  | read path error =>
      match error.kind with
      | .notFound => "cannot find file ".toList ++ marked path
      | .permissionDenied => "permission denied reading ".toList ++ marked path
      | .invalidInput | .unexpectedEnd | .other =>
          "error reading ".toList ++ marked path ++ [':', ' '] ++ error.cause
  | write error => "failed to write output: ".toList ++ error.cause

end Failure

end TemplateLexer
