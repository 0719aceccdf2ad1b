import FlatKnit.Files.Path

/-! File trees: files and folders at places, read and written by paths. -/

namespace FlatKnit

/-- What a file holds: a text, or bytes that are none. -/
inductive FileContent where
  | text (text : String)
  | bytes
  deriving Repr, Inhabited, DecidableEq

instance : Coe String FileContent :=
  ⟨.text⟩

/-- Files with what they hold, and folders that may be empty. -/
structure FileTree where
  files : List (Place × FileContent)
  folders : List Place
  deriving Repr, Inhabited, DecidableEq

namespace FileTree

/-- A tree without files. -/
def empty : FileTree := ⟨[], []⟩

/-- What the file at a place holds. -/
def file? (tree : FileTree) (place : Place) : Option FileContent :=
  tree.files.lookup place

/-- Whether there is a folder at a place, on its own or above a file or another folder. -/
def isFolder (tree : FileTree) (place : Place) : Bool :=
  -- The working folder and those above it are always there, and so is the root.
  place.all (· == upward) || place == [rootName] ||
    tree.folders.any (place.isPrefixOf ·) ||
    tree.files.any fun (other, _) => place.isPrefixOf other && place != other

/-- Follows the steps of a path from a place; each one needs a folder to step from. -/
def walk (tree : FileTree) (place : Place) : List String → Except FileFault Place
  | [] => .ok place
  | name :: names =>
    -- A step is only made from a folder, even one that stays where it is.
    if tree.isFolder place then
      if isLongName name then .error .tooLong else tree.walk (place.step name) names
    else if (tree.file? place).isSome then .error .notFolder
    else .error .absent

/-- The place of a path. -/
def resolve (tree : FileTree) (path : String) : Except FileFault Place :=
  match pathFault path with
  -- Nothing is walked along a path that no file can have.
  | some fault => .error fault
  | none => tree.walk (pathStart path) (pathSteps path)

/-- The text of the file under a path. -/
def read (tree : FileTree) (path : String) : Except FileFault String := do
  let place ← tree.resolve path
  match tree.file? place with
  | some (.text text) => return text
  | some .bytes => throw .notText
  | none => if tree.isFolder place then throw .isFolder else throw .absent

/-- Whether a path leads to a file, be it one that can be read or not. -/
def isFile (tree : FileTree) (path : String) : Bool :=
  match tree.resolve path with
  | .ok place => (tree.file? place).isSome
  | .error _ => false

/-- The tree with a file at a place, over what was there. -/
def put (tree : FileTree) (place : Place) (content : FileContent) : FileTree :=
  if (tree.file? place).isSome then
    { tree with
      files := tree.files.map fun (other, old) => (other, if other == place then content else old) }
  else { tree with files := tree.files ++ [(place, content)] }

/-- The tree with a folder at a place. -/
def putFolder (tree : FileTree) (place : Place) : FileTree :=
  { tree with folders := tree.folders ++ [place] }

/-- What a change leaves: the tree with all that was done before a fault stopped it. -/
abbrev Change := FileTree × Except FileFault Unit

/-- Creates the folders that are missing along some names. -/
def makeFolders (tree : FileTree) (place : Place) : List String → Change
  | [] => (tree, .ok ())
  | name :: names =>
    let next := place.step name
    -- The names are created one by one, so that a fault leaves those before it.
    if isLongName name then (tree, .error .tooLong)
    else if (tree.file? next).isSome then (tree, .error .notFolder)
    else if tree.isFolder next then tree.makeFolders next names
    else (tree.putFolder next).makeFolders next names

/-- Creates the folder of a path and those above it; an empty path needs none. -/
def createFolder (tree : FileTree) (path : String) : Change :=
  if path.isEmpty then (tree, .ok ())
  else
    match pathFault path with
    | some fault => (tree, .error fault)
    | none => tree.makeFolders (pathStart path) (pathNames path)

/-- Writes the file under a path into a folder that is there. -/
def writeFile (tree : FileTree) (path text : String) : Change :=
  match tree.resolve path with
  | .error fault => (tree, .error fault)
  | .ok place =>
    if tree.isFolder place then (tree, .error .isFolder) else (tree.put place text, .ok ())

/-- Writes a file after creating the folders above it; they stay if the file cannot be written. -/
def write (tree : FileTree) (path text : String) : Change :=
  match tree.createFolder (folderPath path) with
  -- Folders that were made before the fault stay.
  | (tree, .error fault) => (tree, .error fault)
  | (tree, .ok _) => tree.writeFile path text

/-- The tree that writing some files one after another leaves. -/
def ofFiles (files : List (String × String)) : FileTree :=
  files.foldl (fun tree (path, text) => (tree.write path text).1) empty

end FileTree

end FlatKnit
