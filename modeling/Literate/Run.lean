import Literate.Fault

/-! # Runs

An action on a state `σ` ends in a value or a fault, leaves a state behind either way, and writes log
entries as it goes. `Run` is the monad of such actions; the projections `result`, `state` and `log` of
an outcome are what its lemmas speak about. -/

namespace Literate

/-- An entry of the log: progress, shown from a verbosity on, or a warning, always shown. A remark on
extension code is noted too, but goes to the user and not into the log. -/
inductive Entry where
  | progress (level : Nat) (message : String)
  | warning (message : String)
  | remark (message : String)
deriving DecidableEq

/-- Whether an entry is shown at a verbosity. -/
def Entry.shownAt (verbosity : Int) : Entry → Bool
  | .progress level _ => level ≤ verbosity
  | .warning _ => true
  | .remark _ => false

/-- The text of a remark. -/
def Entry.remark? : Entry → Option String
  | .remark message => some message
  | _ => none

/-- What an action ends in, the state it leaves and the log it wrote. -/
structure Outcome (σ α : Type) where
  result : Except Fault α
  state : σ
  log : List Entry

/-- An action on a state. -/
def Run (σ α : Type) : Type := σ → Outcome σ α

namespace Run

variable {σ τ α β : Type}

/-- Do the action. -/
def run (x : Run σ α) (s : σ) : Outcome σ α := x s

/-- End in a value. -/
protected def pure (a : α) : Run σ α := fun s => ⟨.ok a, s, []⟩

/-- Go on with the value of an action; a fault ends the run. -/
protected def bind (x : Run σ α) (f : α → Run σ β) : Run σ β := fun s =>
  match x s with
  | ⟨.ok a, s', log⟩ =>
    let next := f a s'
    { next with log := log ++ next.log }
  | ⟨.error fault, s', log⟩ => ⟨.error fault, s', log⟩

instance : Monad (Run σ) where
  pure := Run.pure
  bind := Run.bind

/-- End in a fault. -/
def fail (fault : Fault) : Run σ α := fun s => ⟨.error fault, s, []⟩

/-- End in a problem of the pipeline. -/
def problem (p : Problem) : Run σ α := fail (.ofProblem p)

/-- End in a failure that is passed on as it is. -/
def failure (f : Failure) : Run σ α := fail (.ofFailure f)

/-- The state. -/
def get : Run σ σ := fun s => ⟨.ok s, s, []⟩

/-- Replace the state. -/
def set (s : σ) : Run σ Unit := fun _ => ⟨.ok (), s, []⟩

/-- Change the state. -/
def modify (f : σ → σ) : Run σ Unit := fun s => ⟨.ok (), f s, []⟩

/-- Write a log entry. -/
def note (entry : Entry) : Run σ Unit := fun s => ⟨.ok (), s, [entry]⟩

/-- Write a progress entry. -/
def progress (level : Nat) (message : String) : Run σ Unit := note (.progress level message)

/-- End as a result says. -/
def ofExcept : Except Fault α → Run σ α
  | .ok a => Run.pure a
  | .error fault => fail fault

/-- End as a result says; a failure is passed on as it is. -/
def ofResult : Except Failure α → Run σ α
  | .ok a => Run.pure a
  | .error f => failure f

/-- Change the fault an action ends in. -/
def mapFault (f : Fault → Fault) (x : Run σ α) : Run σ α := fun s =>
  let out := x s
  { out with result := out.result.mapError f }

/-- Act on a part of the state. -/
def zoom (part : σ → τ) (update : τ → σ → σ) (x : Run τ α) : Run σ α := fun s =>
  let out := x (part s)
  ⟨out.result, update out.state s, out.log⟩

/-- Turn the result of an action, fault or value, into a value. -/
def attempt (x : Run σ α) : Run σ (Except Fault α) := fun s =>
  let out := x s
  ⟨.ok out.result, out.state, out.log⟩

/-- Do an action for every member of a list and put the resulting lists one after the other. -/
def collect (f : α → Run σ (List β)) : List α → Run σ (List β)
  | [] => pure []
  | a :: rest => do
    let first ← f a
    let others ← collect f rest
    pure (first ++ others)

end Run
end Literate
