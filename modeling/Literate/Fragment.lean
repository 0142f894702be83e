import Literate.Fence
import Literate.Line
import Literate.Fault

/-! # Fragments

Fence lines open and close regions in turn. A fragment is one such region: the header of its opening
fence, the texts of the lines between the two fences, and the opening line itself. -/

namespace Literate

/-- The lines between an opening and a closing fence. -/
structure Fragment where
  header : Fence.Header := {}
  lines : List Text := []
  opened : Line := { text := [] }
deriving DecidableEq, Inhabited

namespace Fragment

/-- Collect fragments from here on; `current` is the fragment that is open. -/
def collectFrom (extensionLanguage : Text) :
    Option Fragment → List Line → Except Fault (List Fragment)
  | none, [] => .ok []
  | some fragment, [] => .error (.ofProblem (.missingFence fragment.opened.location))
  | current, line :: rest =>
    match Fence.Header.parse? extensionLanguage line.text, current with
    | none, none => collectFrom extensionLanguage none rest
    | none, some fragment =>
      collectFrom extensionLanguage
        (some { fragment with lines := fragment.lines ++ [line.text] }) rest
    | some header, none => collectFrom extensionLanguage (some ⟨header, [], line⟩) rest
    | some _, some fragment => do
      return fragment :: (← collectFrom extensionLanguage none rest)

/-- The fragments of a document, in order. -/
def collect (extensionLanguage : Text) (lines : List Line) : Except Fault (List Fragment) :=
  collectFrom extensionLanguage none lines

end Fragment
end Literate
