import Literate.Directive
import Literate.FileTree
import Literate.Line
import Literate.Room

/-! # Includes

Every include directive is replaced by the lines of the file it names, whose own includes are replaced
first. A file is looked for beside the including file and then in the directories of the search list,
in order; an `include-path` directive appends to that list for everything that is resolved after it.
Files may include each other in a cycle, so the nesting is bounded. Before a whole file is resolved, room
is made for the bound. -/

namespace Literate

/-- An include that was resolved: the path as written, the file it led to and its nesting. -/
structure IncludeRecord where
  path : Text
  resolved : Path
  depth : Int
deriving DecidableEq

/-- The search list and the includes resolved so far. -/
structure Search where
  dirs : List Path := []
  records : List IncludeRecord := []
deriving DecidableEq, Inhabited

namespace Include

/-- A file as lines. A file that is not there or is a directory is a problem of the pipeline; bytes
that are no text are passed on as a failure. -/
def readLines (tree : FileTree) (path : Path) : Except Fault (List Line) :=
  match tree.read path with
  | .ok text => .ok (Line.ofFile path text)
  | .error (.file obstacle path) =>
    .error ((Fault.ofFailure (.file obstacle path)).under (.unreadable path))
  | .error failure => .error (.ofFailure failure)

/-- The first of some paths that leads to a file. -/
def firstFile? (tree : FileTree) : List Path → Except Failure (Option Path)
  | [] => .ok none
  | path :: rest => do
    if ← tree.isFile path then .ok (some path) else firstFile? tree rest

/-- Where an include may be found, in order. -/
def candidates (dirs : List Path) (file : Path) (reference : Text) : List Path :=
  (file.parent :: dirs).map (·.join (.ofText reference))

/-- Find the file an include names. -/
def find (tree : FileTree) (file : Path) (reference : Text) : Run Search Path := do
  let dirs := (← Run.get).dirs
  match firstFile? tree (candidates dirs file reference) with
  | .ok (some path) => pure path
  | .ok none => Run.problem (.includeMissing reference file dirs)
  | .error failure => Run.failure failure

/-- Note a resolved include. -/
def record (r : IncludeRecord) : Run Search Unit := do
  Run.modify fun s => { s with records := s.records ++ [r] }
  Run.progress 3 s!"Including {r.resolved} (depth {r.depth})"

/-- Append a directory to the search list. -/
def addDir (file : Path) (directory : Text) : Run Search Unit := do
  let dir := file.parent.join (.ofText directory)
  Run.modify fun s => { s with dirs := s.dirs ++ [dir] }
  Run.progress 3 s!"Added include directory {dir}"

/-- Resolve the includes in the lines of a file at a depth; `budget` is how much deeper includes may
lead, plus one. -/
def resolveLines (tree : FileTree) : Nat → Int → Path → List Line → Run Search (List Line)
  | 0, depth, file, _ => Run.problem (.includeTooDeep depth file)
  | budget + 1, depth, file, lines =>
    lines |> Run.collect fun line =>
      match Directive.parse? line.text with
      | some (.includeFile path _) => do
        let target ← find tree file path
        record ⟨path, target, depth + 1⟩
        let inner ← Run.ofExcept (readLines tree target)
        resolveLines tree budget (depth + 1) target inner
      | some (.includePath directory) => do
        addDir file directory
        pure []
      | _ => pure [line]

/-- Resolve the includes in lines within a bound. -/
def resolve (tree : FileTree) (maxDepth : Int) (file : Path) (depth : Int) (lines : List Line) :
    Run Search (List Line) :=
  resolveLines tree (maxDepth + 1 - depth).toNat depth file lines

/-- Read a file and resolve all of its includes. -/
def resolveWithin (tree : FileTree) (maxDepth : Int) (file : Path) : Run Search (List Line) := do
  resolve tree maxDepth file 0 (← Run.ofExcept (readLines tree file))

/-- A file with all of its includes resolved, where `stack` calls have begun. -/
def resolveFile (settings : Settings) (stack : Nat) (tree : FileTree) (file : Path) :
    Run Search (List Line) :=
  (resolveWithin tree settings.maxIncludeDepth file).withRoom settings stack

variable {settings : Settings} {stack : Nat}

theorem resolveFile_of_fits (h : settings.Fits stack) (tree : FileTree) (file : Path) :
    resolveFile settings stack tree file = resolveWithin tree settings.maxIncludeDepth file :=
  Run.withRoom_of_fits h _

theorem resolveFile_of_not_fits (h : ¬settings.Fits stack) (tree : FileTree) (file : Path) :
    resolveFile settings stack tree file = Run.failure noRoom :=
  Run.withRoom_of_not_fits h _

end Include
end Literate
