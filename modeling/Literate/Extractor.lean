import Literate.Fence
import Literate.Line
import Literate.Output
import Literate.Text.Blank

/-! # Extension blocks

A fence that announces extension code starts a capture; the lines after it are taken out of the
document and, at the next fence, handed to the evaluator as one text. The evaluator is a parameter: an
action on a context `ε`, which may fail. A capture is closed before its code runs. -/

namespace Literate

/-- The capture in progress, the line that opened the last one, and how many blocks have run. -/
structure Extractor where
  capture : Option (List Text) := none
  opened : Option Line := none
  executed : Nat := 0
deriving DecidableEq, Inhabited

namespace Extractor

variable {ε : Type}

/-- Whether a line ends a capture. -/
def closes (line : Text) : Bool := Fence.marker.isPrefixOf (Text.stripStart line)

/-- Change the extractor. -/
def update (f : Extractor → Extractor) : Run (Extractor × ε) Unit := (Run.modify f).onFirst

/-- Take in one line: whether it stays in the document. -/
def step (execute : Text → Run ε Unit) (extensionLanguage : Text) (line : Line) :
    Run (Extractor × ε) Bool := do
  match (← Run.get).1.capture with
  | none =>
    match Fence.Header.parse? extensionLanguage line.text with
    | some header =>
      if header.isExtension then
        update fun x => { x with capture := some [], opened := some line }
        return false
      else return true
    | none => return true
  | some captured =>
    if closes line.text then
      update fun x => { x with capture := none }
      (execute captured.flatten).onSecond
      update fun x => { x with executed := x.executed + 1 }
    else update fun x => { x with capture := some (captured ++ [line.text]) }
    return false

/-- At the end no capture may be open. -/
def finish (x : Extractor) : Except Fault Unit :=
  match x.capture with
  | none => .ok ()
  | some _ =>
    .error (.ofProblem (.missingExtensionFence
      (match x.opened with
        | some line => line.location
        | none => "<unknown>".toList)))

end Extractor
end Literate
