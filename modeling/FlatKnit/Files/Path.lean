/-! Paths: the steps that a text with slashes names, and what goes wrong on the way along them. -/

namespace FlatKnit

/-- Why a path cannot be read or written. -/
inductive FileFault where
  | absent
  | notFolder
  | isFolder
  /-- A name, or the path as a whole, has too many bytes. -/
  | tooLong
  /-- The path holds a character that no name can hold. -/
  | unnameable
  /-- What the file holds is no text. -/
  | notText
  deriving Repr, DecidableEq

/-- The words for a fault of a path. -/
def FileFault.message : FileFault → String
  | absent => "No such file or directory (os error 2)"
  | notFolder => "Not a directory (os error 20)"
  | isFolder => "Is a directory (os error 21)"
  | tooLong => "File name too long (os error 36)"
  | unnameable => "file name contained an unexpected NUL byte"
  | notText => "stream did not contain valid UTF-8"

/-- The place of a file or folder: the names on the way to it. -/
abbrev Place := List String

/-- The step to the folder that holds a folder. -/
def upward : String := ".."

/-- The name that stands first in the place of an absolute path. -/
def rootName : String := "/"

/-- Whether a step stays where it is. -/
def isIdleStep (name : String) : Bool :=
  name == "" || name == "."

namespace Place

/-- The place one folder up; above the working folder it is a step upward. -/
def parent (place : Place) : Place :=
  -- Above the working folder nothing is known of the names, so the steps upward are kept.
  if place.all (· == upward) then upward :: place
  -- The root has no folder above it.
  else if place == [rootName] then place
  else place.dropLast

/-- The place that a step of a path leads to. -/
def step (place : Place) (name : String) : Place :=
  if isIdleStep name then place
  else if name == upward then place.parent
  else place ++ [name]

end Place

/-- The steps of a path. -/
def pathSteps (path : String) : List String :=
  (path.toList.splitOn '/').map String.ofList

/-- The path along some steps. -/
def pathAlong (steps : List String) : String :=
  "/".intercalate steps

/-- The names of a path, without steps that stay where they are. -/
def pathNames (path : String) : List String :=
  (pathSteps path).filter fun name => !isIdleStep name

/-- The place where a path starts: the root, or the working folder. -/
def pathStart (path : String) : Place :=
  if path.startsWith '/' then [rootName] else []

/-- The place of a path where every step can be made. -/
def pathPlace (path : String) : Place :=
  (pathNames path).foldl Place.step (pathStart path)

/-- The path of the folder that the last name of a path stands in; empty if it needs no naming. -/
def folderPath (path : String) : String :=
  -- Idle steps behind the last name do not count, and neither do those in front of it.
  let inner := ((pathSteps path).reverse.dropWhile isIdleStep).drop 1
  pathAlong (inner.dropWhile isIdleStep).reverse

/-- The extension of a file name: what follows its last dot, unless that is the first character. -/
def nameExtension (name : String) : Option String :=
  match (name.toList.splitOn '.').reverse with
  | last :: middle :: rest =>
    -- A name with its only dot in front is hidden, and has no extension.
    if rest.isEmpty && middle.isEmpty then none else some (String.ofList last)
  | _ => none

/-- The extension of the last name of a path. -/
def pathExtension (path : String) : Option String :=
  match (pathNames path).getLast? with
  | some name => if name == upward then none else nameExtension name
  | none => none

/-- The most bytes of one name. -/
def nameLimit : Nat := 255

/-- The most bytes of a whole path. -/
def pathLimit : Nat := 4095

/-- Whether no folder can hold a name of this length. -/
def isLongName (name : String) : Bool :=
  name.utf8ByteSize > nameLimit

/-- What is wrong with a path before any step of it is made. -/
def pathFault (path : String) : Option FileFault :=
  -- These faults are found before the tree is looked at.
  if path.isEmpty then some .absent
  else if path.contains '\x00' then some .unnameable
  else if path.utf8ByteSize > pathLimit then some .tooLong
  else none

end FlatKnit
