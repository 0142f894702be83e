import Literate.Text.Basic
import Literate.Text.Alphanumeric

/-! # Fences

A fence line is an indentation, three backticks, and a header:

    [indent] ``` [spaces] [language] [spaces] [= | !] [name] [anything]

Without a mark the lines after it are added to the block of that name, with `=` they replace what the
block held before, and an exclamation mark after the extension language announces code that runs while
the document is read. A bare closing fence has an empty header. -/

namespace Literate

namespace Fence

/-- The marker of a fence line. -/
def marker : Text := "```".toList

/-- What the lines after a fence are for. -/
inductive Role where
  /-- Extension code. -/
  | extension
  /-- Lines of the block with this name, which may replace its earlier lines. -/
  | block (replacing : Bool) (name : Text)
deriving DecidableEq

/-- The header of a fence line. -/
structure Header where
  indent : Text := []
  language : Text := []
  role : Role := .block false []
deriving DecidableEq, Inhabited

namespace Header

open Text

/-- The name of the block a fence opens; the root block and extension code have an empty one. -/
def name (header : Header) : Text :=
  match header.role with
  | .extension => []
  | .block _ name => name

/-- Whether a fence replaces the earlier lines of its block. -/
def replacing (header : Header) : Bool :=
  match header.role with
  | .extension => false
  | .block replacing _ => replacing

/-- Whether a fence opens extension code. -/
def isExtension (header : Header) : Bool := header.role = .extension

/-- The role that the text after the language gives a fence. -/
def roleOf (extensionLanguage language rest : Text) : Role :=
  if !language.isEmpty && language = extensionLanguage && rest.head? = some '!' then .extension
  else if rest.head? = some '=' then .block true (rest.tail.takeWhile isNameChar)
  else .block false (rest.takeWhile isNameChar)

/-- The header after the marker of a fence line. -/
def ofRest (extensionLanguage indent rest : Text) : Header :=
  let afterSpaces := rest.dropWhile (· == ' ')
  let language := afterSpaces.takeWhile isWordChar
  let afterLanguage := (afterSpaces.dropWhile isWordChar).dropWhile (· == ' ')
  ⟨indent, language, roleOf extensionLanguage language afterLanguage⟩

/-- The header of a line, if the line is a fence. -/
def parse? (extensionLanguage line : Text) : Option Header :=
  (after? marker (line.dropWhile isIndent)).map
    (ofRest extensionLanguage (line.takeWhile isIndent))

end Header
end Fence
end Literate
