import TemplateLexer.SystemError
import TemplateLexer.Text.Utf8

/-!
# Folders

A folder holds files and empty folders by name.  It is where a program runs, and a
path is read in it as a system with folders does.

A path is followed name by name.  The empty name and a dot stay where they are,
and two dots go to the folder above.  A file has nothing below it, not even itself.
Above the folder and at the root there are only folders, and no name is known
there.

A path or a name can be too long.  The length of the path is looked at first, and
that of a name when it is looked up.
-/

namespace TemplateLexer

/-- What a name in a folder stands for. -/
inductive Folder.Entry where
  | file (bytes : Bytes)
  | folder
deriving DecidableEq, Repr

/-- The entries of a folder by name. -/
abbrev Folder := List (Text × Folder.Entry)

namespace Folder

/-! ## Following a path -/

/-- The most bytes of a name. -/
def nameLimit : Nat := 255

/-- The most bytes of a path. -/
def pathLimit : Nat := 4095

/-- Where a path has led so far. -/
inductive Place where
  | here
  /-- One of its folders. -/
  | below
  /-- A folder that is not in it. -/
  | elsewhere
  /-- One of its files. -/
  | file (bytes : Bytes)
deriving DecidableEq, Repr

/-- The place above a folder. -/
def Place.above : Place → Place
  | below => here
  | here | elsewhere | file _ => elsewhere

/-- The place with a name below a place. -/
def lookUp (folder : Folder) (name : Text) : Place → Except SystemError Place
  | .here =>
      match folder.lookup name with
      | some (.file bytes) => .ok (.file bytes)
      | some .folder => .ok .below
      | none => .error .notFound
  | .below | .elsewhere | .file _ => .error .notFound

/-- Follows one name. -/
def enter (folder : Folder) (place : Place) (name : Text) : Except SystemError Place :=
  match place with
  | .file _ => .error .notAFolder
  | .here | .below | .elsewhere =>
      if name = [] ∨ name = ['.'] then .ok place
      else if name = ['.', '.'] then .ok place.above
      else if nameLimit < name.size then .error .nameTooLong
      else lookUp folder name place

/-- Follows some names. -/
def follow (folder : Folder) : Place → List Text → Except SystemError Place
  | place, [] => .ok place
  | place, name :: rest => do follow folder (← enter folder place name) rest

/-- The names between the slashes of a path. -/
def names : Text → List Text
  | [] => [[]]
  | '/' :: t => [] :: names t
  | c :: t =>
      match names t with
      | [] => [[c]]
      | name :: rest => (c :: name) :: rest

/-! ## Reading -/

/-- The bytes of the file at a path. -/
def read (folder : Folder) (path : Text) : Except SystemError Bytes := do
  if '\x00' ∈ path then throw .nullInName
  if path = [] then throw .notFound
  if pathLimit < path.size then throw .nameTooLong
  match ← follow folder (if path.head? = some '/' then .elsewhere else .here) (names path) with
  | .file bytes => return bytes
  | .here | .below | .elsewhere => throw .isAFolder

end Folder

end TemplateLexer
