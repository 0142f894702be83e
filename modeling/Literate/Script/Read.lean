import Literate.Failure

/-! # What reading code gives

Reading a program ends in a value or in an error. On the way there may be remarks: the code can be read,
but it cannot be meant as it stands. `Read` is the monad of such readings; remarks that were made before
an error are kept. -/

namespace Literate.Script

/-- What a program that cannot be read violates. -/
inductive ReadErrorKind where
  | grammar
  | indentation
  | tabs
  /-- The text is no program at all, so the error has no place. -/
  | encoding
  /-- The parts of the program are nested too deep to be read, or to be made ready to run. -/
  | memory
  | nesting
  /-- The program can be read, but not all of it can be run here. -/
  | unsupported
deriving DecidableEq

/-- Why a program cannot be read, and at which line; an error without a place is at line -1. -/
structure ReadError where
  message : String
  line : Int
  kind : ReadErrorKind := .grammar

/-- The failure that an unreadable program ends in; `label` names the program. -/
def ReadError.failure (label : String) (e : ReadError) : Failure :=
  let message := s!"{e.message} ({label}, line {e.line})"
  match e.kind with
  | .grammar => .grammar message
  | .indentation => .indentation message
  | .tabs => .raised .tabs message
  | .encoding => .raised .value e.message
  | .memory => .raised .memory ""
  | .nesting => .recursion " during compilation"
  | .unsupported => .unsupported message

/-- The same error, with words in front of its message. -/
def ReadError.behind (words : String) (e : ReadError) : ReadError :=
  { e with message := words ++ e.message }

/-- A remark on code, with the line it is about. -/
structure Remark where
  line : Nat
  message : String
deriving DecidableEq

/-- What reading ends in, and the remarks that were made. -/
structure Read (α : Type) where
  result : Except ReadError α
  remarks : List Remark := []

namespace Read

variable {α β : Type}

protected def pure (a : α) : Read α := { result := .ok a }

/-- Go on with the value of a reading; an error ends it. -/
protected def bind (x : Read α) (f : α → Read β) : Read β :=
  match x.result with
  | .ok a =>
    let next := f a
    { next with remarks := x.remarks ++ next.remarks }
  | .error e => ⟨.error e, x.remarks⟩

instance : Monad Read where
  pure := Read.pure
  bind := Read.bind

def fail (e : ReadError) : Read α := { result := .error e }

/-- End as a result says. -/
def ofExcept (result : Except ReadError α) : Read α := { result }

def remark (r : Remark) : Read Unit := ⟨.ok (), [r]⟩

end Read

end Literate.Script
