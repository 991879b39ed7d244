import TemplateLexer.Text.Basic

/-!
# Errors of the system

What the system answers to a request that it does not grant.  Two kinds are told
apart from the rest, since a failure names them in words of its own.  For the others
the words of the system are kept, with the number it has for the error.
-/

namespace TemplateLexer

/-- The kind of an error of the system. -/
inductive SystemError.Kind where
  | notFound
  | permissionDenied
  /-- The request makes no sense. -/
  | invalidInput
  | unexpectedEnd
  | other
deriving DecidableEq, Repr

/-- An error of the system. -/
structure SystemError where
  kind : SystemError.Kind
  /-- The cause in words. -/
  cause : Text
deriving DecidableEq, Repr

namespace SystemError

/-- No file has the path. -/
def notFound : SystemError := ⟨.notFound, "No such file or directory (os error 2)".toList⟩

/-- A path goes on below a file. -/
def notAFolder : SystemError := ⟨.other, "Not a directory (os error 20)".toList⟩

/-- A path leads to a folder, which has no bytes. -/
def isAFolder : SystemError := ⟨.other, "Is a directory (os error 21)".toList⟩

/-- A path or one of its names is too long. -/
def nameTooLong : SystemError := ⟨.other, "File name too long (os error 36)".toList⟩

/-- A path has a null character in it. -/
def nullInName : SystemError :=
  ⟨.invalidInput, "file name contained an unexpected NUL byte".toList⟩

/-- The error of a path that the system has a number for. -/
def ofNumber? : Nat → Option SystemError
  | 2 => some notFound
  | 20 => some notAFolder
  | 21 => some isAFolder
  | 36 => some nameTooLong
  | _ => none

end SystemError

end TemplateLexer
