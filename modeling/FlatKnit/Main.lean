import FlatKnit.CommandLine.Run

/-! The program: reads the files that a command line names, runs it, and prints its outcome. -/

namespace FlatKnit

/-- The folder for settings files, if any: an absolute one that is set, or a hidden one at home. -/
def settingsFolder : IO (Option String) := do
  let home := (← IO.getEnv "HOME").getD ""
  let hidden := if home.isEmpty then none else some (home ++ "/.config")
  match ← IO.getEnv "XDG_CONFIG_HOME" with
  | some folder => return if folder.startsWith '/' then some folder else hidden
  | none => return hidden

/-- A tree with what reading one path has shown: a file or a folder at its place. -/
def look (tree : FileTree) (path : String) : IO FileTree := do
  try
    let bytes ← IO.FS.readBinFile path
    match String.fromUTF8? bytes with
    | some text => return tree.put (pathPlace path) text
    | none => return tree.put (pathPlace path) .bytes
  catch
    | .inappropriateType _ 21 _ => return tree.putFolder (pathPlace path)
    | _ => return tree

/-- A tree with what stands on the way along a path and at its end. -/
def fetch (tree : FileTree) (path : String) : IO FileTree := do
  let steps := pathSteps path
  let ways := (List.range (steps.length + 1)).map fun count => pathAlong (steps.take count)
  (ways.filter fun way => !way.isEmpty).foldlM look tree

/-- The paths that a request reads. -/
def neededPaths (folder : Option String) : Request → List String
  | .run invocation =>
    (invocation.config.or (folder.map Settings.defaultPath)).toList ++ [invocation.input]
  | _ => []

/-- The line for one entry of a report. -/
def Cause.text : Cause → String
  | .line text => text
  | .malformed => "malformed document"

/-- Runs a command line and prints its outcome; the result is the exit code. -/
def perform (words : List String) : IO UInt32 := do
  let folder ← settingsFolder
  let request := Request.read words
  let tree ← (neededPaths folder request).foldlM fetch FileTree.empty
  let outcome := request.answer tree folder
  IO.print outcome.stdout
  match outcome.causes with
  | [] => if outcome.exit == 2 then IO.eprintln "error: invalid arguments"
  | first :: rest =>
    IO.eprintln ("Error: " ++ Cause.text first)
    for cause in rest do
      IO.eprintln ("  caused by: " ++ Cause.text cause)
  return UInt32.ofNat outcome.exit

end FlatKnit

/-- Runs the command line that the program was called with. -/
def main (words : List String) : IO UInt32 :=
  FlatKnit.perform words
