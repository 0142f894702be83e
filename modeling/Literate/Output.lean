import Literate.FileTree
import Literate.Run

/-! # Making directories and writing lines

A directory is made together with those above it that are missing. Where one of them cannot be made,
those that were made before it stay. Lines are written to a file one after the other, exactly as they
are. What the file held before is gone as soon as it is open, so where a line cannot be written, the file
is left with the lines before it. -/

namespace Literate

variable {σ τ α : Type}

namespace Run

def onFirst (x : Run σ α) : Run (σ × τ) α := zoom Prod.fst (fun s p => (s, p.2)) x

def onSecond (x : Run τ α) : Run (σ × τ) α := zoom Prod.snd (fun s p => (p.1, s)) x

/-- Act on a state of its own, which is forgotten. -/
def aside (s : τ) (x : Run τ α) : Run σ α := zoom (fun _ => s) (fun _ t => t) x

end Run

def changeTree (change : FileTree → Except Failure FileTree) : Run FileTree Unit := do
  Run.set (← Run.ofResult (change (← Run.get)))

namespace Directory

def make (path : Path) : Run FileTree Unit := changeTree (·.makeDirectory path)

/-- Make a directory; one that is there already is no failure. -/
def ensure (path : Path) : Run FileTree Unit := changeTree (·.ensureDirectory path)

/-- Make the directory with the first `count` names of a path, and those above it that are missing. -/
def ensureNames (path : Path) : Nat → Run FileTree Unit
  | 0 => ensure { path with names := [] }
  | count + 1 => do
    let here := { path with names := path.names.take (count + 1) }
    match (← Run.get).makeDirectory here with
    | .error (.file .noSuchFile _) =>
      ensureNames path count
      ensure here
    | _ => ensure here

/-- Make a directory and all directories above it. -/
def ensureAll (path : Path) : Run FileTree Unit := ensureNames path path.names.length

/-- Make a directory, and the directories above it that are missing. -/
def makeAll (path : Path) : Run FileTree Unit := do
  match (← Run.get).makeDirectory path with
  | .error (.file .noSuchFile _) =>
    ensureAll path.parent
    make path
  | _ => make path

end Directory

/-- The tree with a node put at a path, and directories above it. -/
def FileTree.plant (tree : FileTree) (path : Path) (node : Node) : FileTree :=
  let tree := ((Directory.ensureAll path.parent).run tree).state
  match tree.locate path with
  | .ok place => if place.names.isEmpty then tree else tree.put place node
  | .error _ => tree

/-- An obstacle of the file system is reported as a problem with the file. -/
def unwritten (path : Path) (fault : Fault) : Fault :=
  match fault.top with
  | .failure (.file _ _) => fault.under (.unwritable path)
  | _ => fault

def openForWriting (path : Path) : Run FileTree Place := do
  let (place, tree) ← Run.ofResult ((← Run.get).openFile path)
  Run.set tree
  return place

/-- Add texts to an open file, one after the other. Writing ends at the first text that cannot be
written, with the failure that stands in its place. -/
def addTexts (place : Place) : List (Except Failure Text) → Run FileTree Unit
  | [] => return ()
  | text :: rest => do
    let text ← Run.ofResult text
    Run.modify (·.extend place text)
    addTexts place rest

def fillFile (path : Path) (texts : List (Except Failure Text)) : Run FileTree Unit := do
  let place ← openForWriting path
  addTexts place texts

def writeTexts (path : Path) (texts : List (Except Failure Text)) : Run FileTree Unit := do
  (fillFile path texts).mapFault (unwritten path)
  Run.progress 2 s!"Wrote {texts.length} lines to {path}"

def writeLines (path : Path) (lines : List Text) : Run FileTree Unit :=
  writeTexts path (lines.map .ok)

end Literate
