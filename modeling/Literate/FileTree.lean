import Literate.Failure

/-! # Trees of files

A file tree is a value: which places hold a directory and which a file with a text. A file whose bytes
are no UTF-8 text is there, but has no text. Paths are walked name by name, so `x/../y` leads somewhere
only if `x` is a directory. Reading, opening and making directories either succeed or meet one of the
obstacles of the file system. A file that is opened for writing loses what it held, and texts are then
added at its end; a device never runs full. -/

namespace Literate

/-- Where a path leads: `above` directories above the working directory (or to the root of the file
system) and from there down a chain of names. -/
structure Place where
  absolute : Bool := false
  above : Nat := 0
  names : List Text := []
deriving DecidableEq

namespace Place

/-- The directory that holds a place. -/
def up (p : Place) : Place :=
  if !p.names.isEmpty then { p with names := p.names.dropLast }
  else if p.absolute then p
  else { p with above := p.above + 1 }

/-- A place inside a directory. -/
def down (p : Place) (name : Text) : Place := { p with names := p.names ++ [name] }

/-- The place one name further. -/
def step (p : Place) (name : Text) : Place := if name = Path.up then p.up else p.down name

end Place

/-- What stands at a place. -/
inductive Node where
  | directory
  | file (text? : Option Text)
deriving DecidableEq

/-- The directories and files that exist. -/
structure FileTree where
  nodes : List (Place × Node) := []
deriving Inhabited

namespace FileTree

/-- What stands at a place. The working directory, those above it and the root are always there. -/
def node? (tree : FileTree) (place : Place) : Option Node :=
  if place.names.isEmpty then some .directory else tree.nodes.lookup place

/-- The tree with a node put at a place, in the position of the node that was there. -/
def put (tree : FileTree) (place : Place) (node : Node) : FileTree :=
  if (tree.nodes.lookup place).isSome then
    ⟨tree.nodes.map fun entry => if entry.1 = place then (place, node) else entry⟩
  else ⟨tree.nodes ++ [(place, node)]⟩

/-- The bytes of a text in UTF-8. -/
def byteCount (t : Text) : Nat := t.foldl (fun n c => n + c.utf8Size) 0

/-- The longest name, in bytes. -/
def nameLimit : Nat := 255

/-- The longest path, in bytes. -/
def pathLimit : Nat := 4095

/-- Walk down the names of a path; every place before the last must be a directory. -/
def walk (tree : FileTree) : Place → List Text → Except Obstacle Place
  | place, [] => .ok place
  | place, name :: rest =>
    match tree.node? place with
    | none => .error .noSuchFile
    | some (.file _) => .error .notDirectory
    | some .directory =>
      if nameLimit < byteCount name then .error .nameTooLong
      else walk tree (place.step name) rest

/-- Where a path starts. -/
def start (path : Path) : Place := { absolute := path.isAbsolute }

/-- The place a path leads to, which may hold nothing yet. -/
def locate (tree : FileTree) (path : Path) : Except Failure Place :=
  if path.text.elem '\x00' then .error .nullInPath
  else if pathLimit < byteCount path.text then .error (.file .nameTooLong path)
  else
    match tree.walk (start path) path.names with
    | .ok place => .ok place
    | .error obstacle => .error (.file obstacle path)

/-- What a path leads to. -/
def look (tree : FileTree) (path : Path) : Except Failure Node := do
  match tree.node? (← tree.locate path) with
  | some node => .ok node
  | none => .error (.file .noSuchFile path)

/-- Whether a test on what a path leads to holds. A path that leads nowhere passes no test, but a name
that is too long is a failure. -/
def test (tree : FileTree) (path : Path) (p : Node → Bool) : Except Failure Bool :=
  match tree.look path with
  | .ok node => .ok (p node)
  | .error (.file .nameTooLong path) => .error (.file .nameTooLong path)
  | .error _ => .ok false

/-- Whether a path leads to a file. -/
def isFile (tree : FileTree) (path : Path) : Except Failure Bool :=
  tree.test path fun node => node != .directory

/-- Whether a path leads to a directory. -/
def isDirectory (tree : FileTree) (path : Path) : Except Failure Bool :=
  tree.test path fun node => node == .directory

/-- The text of a file. -/
def read (tree : FileTree) (path : Path) : Except Failure Text := do
  match ← tree.look path with
  | .directory => .error (.file .isDirectory path)
  | .file none => .error .encoding
  | .file (some text) => .ok text

/-- Open a file for writing: where it is, and the tree in which it is empty. -/
def openFile (tree : FileTree) (path : Path) : Except Failure (Place × FileTree) := do
  let place ← tree.locate path
  match tree.node? place with
  | some .directory => .error (.file .isDirectory path)
  | _ => .ok (place, tree.put place (.file (some [])))

/-- The tree with a text added at the end of the file at a place. -/
def extend (tree : FileTree) (place : Place) (text : Text) : FileTree :=
  match tree.node? place with
  | some (.file (some before)) => tree.put place (.file (some (before ++ text)))
  | _ => tree

/-- The tree after a file is written. -/
def write (tree : FileTree) (path : Path) (text : Text) : Except Failure FileTree := do
  let (place, tree) ← tree.openFile path
  return tree.extend place text

/-- The tree after one directory is made. -/
def makeDirectory (tree : FileTree) (path : Path) : Except Failure FileTree := do
  let place ← tree.locate path
  match tree.node? place with
  | some _ => .error (.file .fileExists path)
  | none => .ok (tree.put place .directory)

/-- Make a directory; one that is there already is no failure. -/
def ensureDirectory (tree : FileTree) (path : Path) : Except Failure FileTree :=
  match tree.makeDirectory path with
  | .ok tree => .ok tree
  | .error failure => do
    if ← tree.isDirectory path then .ok tree else .error failure

end FileTree
end Literate
