import Literate.Path
import Literate.Text.Lines

/-! # Lines

A line of a document keeps its text, terminator included, and where it came from: the file, if it was
read from one, and its number there, counted from one. -/

namespace Literate

/-- A line and its provenance. -/
structure Line where
  text : Text
  source : Option Path := none
  number : Int := 0
deriving DecidableEq, Inhabited

namespace Line

/-- Where a line stands, as messages show it. -/
def location (line : Line) : Text :=
  (match line.source with
    | some path => path.text
    | none => "<string>".toList) ++ ':' :: (toString line.number).toList

/-- Texts as lines of one source, numbered from `first` on. -/
def numbered (source : Option Path) (first : Nat) : List Text → List Line
  | [] => []
  | text :: rest => ⟨text, source, first⟩ :: numbered source (first + 1) rest

theorem length_numbered (source : Option Path) : ∀ (first : Nat) (texts : List Text),
    (numbered source first texts).length = texts.length
  | _, [] => rfl
  | first, _ :: texts => congrArg (· + 1) (length_numbered source (first + 1) texts)

theorem map_text_numbered (source : Option Path) : ∀ (first : Nat) (texts : List Text),
    (numbered source first texts).map text = texts
  | _, [] => rfl
  | first, text :: texts => congrArg (text :: ·) (map_text_numbered source (first + 1) texts)

theorem getElem?_numbered (source : Option Path) (first : Nat) (texts : List Text) (index : Nat) :
    (numbered source first texts)[index]? =
      texts[index]?.map fun text => ⟨text, source, (first + index : Nat)⟩ := by
  induction texts generalizing first index with
  | nil => rfl
  | cons text texts ih =>
      cases index with
      | zero => rfl
      | succ index =>
          have hnumber : first + 1 + index = first + (index + 1) := by omega
          rw [numbered, List.getElem?_cons_succ, List.getElem?_cons_succ, ih, hnumber]

/-- The lines of a document in memory. -/
def ofText (source : Option Path) (text : Text) : List Line :=
  numbered source 1 (Text.splitLines Text.isLineBoundary text)

/-- The lines of a file with the given text. -/
def ofFile (path : Path) (text : Text) : List Line :=
  numbered (some path) 1 (Text.splitLines Text.isNewline text)

end Line
end Literate
