import Literate.Directive
import Literate.Line
import Literate.Output

/-! # Conditions

Conditional directives drive a stack of frames. An `if` evaluates its condition, always, and pushes a
frame that remembers whether lines were kept before it and whether a later branch may still be taken;
`elsif` evaluates its condition only if one may; `else` takes what is left; `end` pops the frame and
restores what held before the `if`. Whether a line is kept depends on the innermost frame alone. How a
condition is evaluated is a parameter: an action on a context `ε`, which may fail. -/

namespace Literate

/-- What an open `if` remembers. -/
structure Frame where
  /-- Whether lines were kept before the `if`. -/
  previous : Bool
  /-- Whether a later branch may still be taken. -/
  eligible : Bool
deriving DecidableEq

/-- Whether lines are kept now, and the open frames, innermost first. -/
structure Conditions where
  enabled : Bool := true
  stack : List Frame := []
deriving DecidableEq, Inhabited

namespace Conditions

variable {ε : Type}

/-- The innermost frame and those around it; `keyword` needs one. -/
def top (keyword : String) (line : Line) : Run (Conditions × ε) (Frame × List Frame) := do
  match (← Run.get).1.stack with
  | [] => Run.problem (.unmatched keyword.toList line.location)
  | frame :: rest => return (frame, rest)

/-- Set the conditions. -/
def put (conditions : Conditions) : Run (Conditions × ε) Unit := (Run.set conditions).onFirst

/-- Take in one line: whether it is kept. A conditional directive never is. -/
def step (evaluate : Text → Run ε Bool) (line : Line) : Run (Conditions × ε) Bool := do
  match Directive.parse? line.text with
  | none | some (.includeFile _ _) | some (.includePath _) => return (← Run.get).1.enabled
  | some (.ifCondition condition) =>
    let result ← (evaluate condition).onSecond
    let now := (← Run.get).1
    put ⟨result, ⟨now.enabled, !result⟩ :: now.stack⟩
    return false
  | some (.elsifCondition condition) =>
    let (frame, rest) ← top "elsif" line
    let result ← if frame.eligible then (evaluate condition).onSecond else pure false
    put ⟨result, { frame with eligible := frame.eligible && !result } :: rest⟩
    return false
  | some .elseBranch =>
    let (frame, rest) ← top "else" line
    put ⟨frame.eligible, { frame with eligible := false } :: rest⟩
    return false
  | some .endBranch =>
    let (frame, rest) ← top "end" line
    put ⟨frame.previous, rest⟩
    return false

/-- At the end every `if` must have its `end`. -/
def checkBalance (conditions : Conditions) : Except Fault Unit :=
  if conditions.stack.isEmpty then .ok ()
  else .error (.ofProblem (.unbalanced conditions.stack.length))

end Conditions
end Literate
