import Literate.Reference

/-! # Settings

What can be adjusted: the delimiters of references, the bounds on nesting, the language of extension
code, the search list of includes, the indentation unit of the filters, and whether a failed self test
only warns. -/

namespace Literate

/-- The settings of a run. -/
structure Settings where
  delimiters : Delimiters := {}
  maxIncludeDepth : Int := 1000
  maxMacroDepth : Int := 1000
  extensionLanguage : Text := "python".toList
  includeDirs : List Text := []
  indentUnit : Text := [' ', ' ']
  devMode : Bool := false
deriving DecidableEq, Inhabited

namespace Settings

/-- The delimiters as they are written to be protected. -/
def escapedDelimiters (s : Settings) : Text × Text :=
  (s.delimiters.escape ++ s.delimiters.opening, s.delimiters.escape ++ s.delimiters.closing)

/-- How many nested calls the two bounds may need: one for an include, two for a reference, and some
headroom. -/
def callDepth (s : Settings) : Int := max s.maxIncludeDepth (2 * s.maxMacroDepth) + 500

end Settings
end Literate
