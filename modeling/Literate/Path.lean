import Literate.Text.Basic

/-! # Paths

A path is the number of slashes it starts with and the names after them. Reading a path drops empty
names and single dots, so that `a//b/./c/` and `a/b/c` are one path; double dots stay, because what
they lead to depends on the files. -/

namespace Literate

/-- A path; `slashes` is 0 for a relative path. -/
structure Path where
  slashes : Nat := 0
  names : List Text := []
deriving DecidableEq, Inhabited

namespace Path

/-- The name of the directory above. -/
def up : Text := "..".toList

/-- Read a path. Exactly two leading slashes are kept as two, any other number counts as one. -/
def ofText (t : Text) : Path where
  slashes :=
    match (t.takeWhile (· == '/')).length with
    | 0 => 0
    | 2 => 2
    | _ => 1
  names := (Text.splitAtChar '/' t).filter fun name => !name.isEmpty && name != ['.']

/-- Write a path; the empty relative path is a single dot. -/
def text (p : Path) : Text :=
  if p.slashes = 0 && p.names.isEmpty then ['.']
  else List.replicate p.slashes '/' ++ Text.joinWith ['/'] p.names

def str (p : Path) : String := p.text.str

instance : ToString Path := ⟨str⟩

def isAbsolute (p : Path) : Bool := p.slashes != 0

def parent (p : Path) : Path := { p with names := p.names.dropLast }

/-- A path seen from another one; an absolute path stays what it is. -/
def join (p q : Path) : Path :=
  if q.isAbsolute then q else { p with names := p.names ++ q.names }

end Path
end Literate
