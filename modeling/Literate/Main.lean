import Literate.Command

/-! # The program

The outer layer of the command: it reads the settings from the environment and the files below the
directories of the job into a file tree, runs the command on them, and carries out what the command did
to the tree. -/

namespace Literate.Program

/-- How deep directories are read. -/
def depthLimit : Nat := 32

/-- Put what a directory holds into a tree, seen from a path. -/
def plantEntries (path : Path) (tree : FileTree) (entries : Array IO.FS.DirEntry) : Nat → IO FileTree
  | 0 => return tree
  | depth + 1 => do
    let mut tree := tree
    for entry in entries do
      let here := path.join (.ofText entry.fileName.toList)
      if ← entry.path.isDir then
        tree := tree.plant here .directory
        tree ← plantEntries here tree (← entry.path.readDir) depth
      else
        let bytes ← IO.FS.readBinFile entry.path
        tree := tree.plant here (.file ((String.fromUTF8? bytes).map String.toList))
    return tree

/-- Put what is below a path into a tree, if it is a directory. -/
def plantPath (tree : FileTree) (path : Path) : IO FileTree := do
  let place := (← IO.currentDir) / path.str
  if ← place.isDir then
    let tree := if path.names.isEmpty then tree else tree.plant path .directory
    plantEntries path tree (← place.readDir) depthLimit
  else if ← place.pathExists then return tree.plant path (.file none)
  else return tree

def pathOf (place : Place) : Path where
  slashes := if place.absolute then 1 else 0
  names := List.replicate place.above Path.up ++ place.names

/-- Carry out what has changed between two trees. -/
def carryOut (before after : FileTree) : IO Unit := do
  for (place, node) in after.nodes do
    if before.node? place ≠ some node then
      match node with
      | .directory => IO.FS.createDirAll (pathOf place).str
      | .file (some text) => IO.FS.writeFile (pathOf place).str text.str
      | .file none => pure ()

/-- The variables of the settings in the environment. -/
def environment : IO (List (Text × Text)) := do
  let mut found := []
  for name in Settings.names do
    let lower := (Settings.variableName name).str
    for key in [lower, lower.toUpper] do
      if let some value ← IO.getEnv key then found := found ++ [(key.toList, value.toList)]
  return found

def variablesFile : IO Text :=
  try
    return (← IO.FS.readFile ".env").toList
  catch _ => return []

def settings : IO (Except Settings.SourceError Settings) := do
  let sources : Settings.Sources :=
    { environment := ← environment, file := ← variablesFile }
  return sources.settings

/-- The directories in which the files of a command line may be. -/
def directories (settings : Settings) (arguments : List Text) : List Path :=
  match Command.readJob arguments with
  | .error _ | .ok none => []
  | .ok (some job) =>
    let asked := (job.includePath.filterMap id).map fun name => job.inputDir.join (.ofText name)
    job.inputDir :: job.outputDir :: settings.includeDirs.map .ofText ++ asked

def logLine : Entry → String
  | .progress _ message => "DEBUG   │ " ++ message
  | .warning message => "WARNING │ " ++ message
  | .remark message => message

/-- How many calls have begun when the program makes room for the bounds: five down to the stage that
processes the document, one for tangling or weaving, and three for making room. -/
def callsBegun : Nat := 9

def run (settings : Settings) (arguments : List Text) : IO UInt32 := do
  let tree ← (directories settings arguments).foldlM plantPath {}
  let report := Command.run Script.host settings callsBegun {} arguments tree
  for entry in report.log do IO.eprintln (logLine entry)
  carryOut tree report.tree
  IO.print report.output
  IO.eprint report.complaint
  match report.ending with
  | .status code => return code.toUInt32
  | .failed fault =>
    IO.eprintln fault.report
    return 1

end Literate.Program

def main (arguments : List String) : IO UInt32 := do
  match ← Literate.Program.settings with
  | .error error =>
    IO.eprintln s!"Error: {error.failure.message}"
    return 1
  | .ok settings => Literate.Program.run settings (arguments.map String.toList)
