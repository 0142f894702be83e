import Literate.Failure

/-! # Faults: what went wrong, and because of what

Every problem of the pipeline ends the run. A fault is a chain of causes, the outermost first: each is
a problem of the pipeline or a failure outside it. A problem has a kind; one that only says where
another one happened has the kind of its cause. -/

namespace Literate

/-- The kinds of problems. -/
inductive Kind where
  /-- Missing fences, unbalanced conditions, mixed languages. -/
  | structural
  /-- Unknown blocks, unknown filters, includes that are not found. -/
  | reference
  /-- Includes or references nested too deep. -/
  | bound
  /-- Failing extension code. -/
  | evaluator
  /-- Files that cannot be read or written. -/
  | file
  /-- A failed check of the self test. -/
  | selfTest
deriving DecidableEq, Repr

/-- A problem of the pipeline. -/
inductive Problem where
  | missingFence (opened : Text)
  | missingExtensionFence (opened : Text)
  | mixedLanguages (name first second : Text) (location : Text)
  | unmatched (keyword : Text) (location : Text)
  | unbalanced (count : Nat)
  | unknownBlock (name line : Text)
  | unknownFilter (name : Text)
  | filterFailed (name : Text)
  | expansionTooDeep (depth : Int)
  | lineFailed (line : Text)
  | includeTooDeep (depth : Int) (file : Path)
  | includeMissing (reference : Text) (file : Path) (dirs : List Path)
  | unreadable (path : Path)
  | unwritable (path : Path)
  | conditionFailed (condition : Text)
  | extensionFailed (firstLine : Text)
  | hookFailed
  | checkFailed (check : String)
  | selfTestBroken
  /-- A problem that a filter or another caller announces itself. -/
  | stated (kind : Kind) (message : String)
  /-- A note about where its cause happened. -/
  | note (message : String)
deriving DecidableEq

namespace Problem

open Text (str)

/-- The kind of a problem, if it has one of its own. -/
def ownKind? : Problem → Option Kind
  | missingFence _ | missingExtensionFence _ | mixedLanguages .. | unmatched .. | unbalanced _ =>
    some .structural
  | unknownBlock .. | unknownFilter _ | includeMissing .. => some .reference
  | expansionTooDeep _ | includeTooDeep .. => some .bound
  | filterFailed _ | conditionFailed _ | extensionFailed _ | hookFailed => some .evaluator
  | unreadable _ | unwritable _ => some .file
  | checkFailed _ | selfTestBroken => some .selfTest
  | stated kind _ => some kind
  | lineFailed _ | note _ => none

/-- How a block is named in a message. -/
def blockLabel (name : Text) : String := if name.isEmpty then "(output)" else s!"'{str name}'"

/-- The search list of an include in a message. -/
def searchList (dirs : List Path) : String :=
  let shown := str (Text.joinWith ", ".toList (dirs.map Path.text))
  if shown.isEmpty then "(none)" else shown

/-- The wording of a problem. -/
def message : Problem → String
  | missingFence opened => s!"Missing code fence for block opened at {str opened}"
  | missingExtensionFence opened => s!"Missing code fence for extension block opened at {str opened}"
  | mixedLanguages name first second location =>
    s!"block {blockLabel name} has multiple languages: '{str first}' and '{str second}' at {str location}"
  | unmatched keyword location => s!"{str keyword} without if at {str location}"
  | unbalanced count => s!"unbalanced blocks: {count} if without end"
  | unknownBlock name line => s!"Macro '{str name}' unknown in line: {str line}"
  | unknownFilter name => s!"Filter '{str name}' unknown"
  | filterFailed name => s!"Filter '{str name}' failed"
  | expansionTooDeep depth => s!"too deep macro expansion (depth {depth})"
  | lineFailed line => s!"Failed to process line: {str line}"
  | includeTooDeep depth file => s!"too many includes (depth {depth} in '{file}')"
  | includeMissing reference file dirs =>
    s!"Include file '{str reference}' not found (included from '{file}'; include path: {searchList dirs})"
  | unreadable path => s!"Cannot read '{path}'"
  | unwritable path => s!"Cannot write '{path}'"
  | conditionFailed condition => s!"Failed to evaluate condition: {str condition}"
  | extensionFailed firstLine => s!"Failed to execute extension block: {str firstLine}"
  | hookFailed => "parse_hook failed"
  | checkFailed check => s!"Self test failure: {check}"
  | selfTestBroken => "Self test output does not run"
  | stated _ message => message
  | note message => message

end Problem

/-- One link of a chain of causes. -/
inductive Cause where
  | problem (p : Problem)
  | failure (f : Failure)
deriving DecidableEq

namespace Cause

/-- The wording of a cause. -/
def message : Cause → String
  | problem p => p.message
  | failure f => f.message

/-- The kind of the outermost link of a chain. A note has the kind of what it is about, and what is
no problem of the pipeline counts as coming from extension code. -/
def kindOf : List Cause → Kind
  | [] => .evaluator
  | failure _ :: _ => .evaluator
  | problem p :: rest => p.ownKind?.getD (kindOf rest)

end Cause

/-- What ended a run: the outermost cause and those below it. -/
structure Fault where
  top : Cause
  causes : List Cause := []
deriving DecidableEq

namespace Fault

/-- A problem of the pipeline without a cause. -/
def ofProblem (p : Problem) : Fault := { top := .problem p }

/-- A failure that is passed on as it is. -/
def ofFailure (f : Failure) : Fault := { top := .failure f }

/-- The whole chain, outermost first. -/
def chain (fault : Fault) : List Cause := fault.top :: fault.causes

/-- The fault put below a problem of the pipeline. -/
def under (fault : Fault) (p : Problem) : Fault := { top := .problem p, causes := fault.chain }

/-- Whether the outermost cause is a problem of the pipeline. -/
def isProblem (fault : Fault) : Bool :=
  match fault.top with
  | .problem _ => true
  | .failure _ => false

/-- The kind of a fault. -/
def kind (fault : Fault) : Kind := Cause.kindOf fault.chain

/-- The message of the outermost cause. -/
def message (fault : Fault) : String := fault.top.message

/-- The innermost cause. -/
def root (fault : Fault) : Cause := fault.causes.getLastD fault.top

/-- The fault and its causes, one per line. -/
def report (fault : Fault) : String :=
  fault.causes.foldl (fun text cause => text ++ "\n  Caused by: " ++ cause.message)
    ("Error: " ++ fault.message)

end Fault
end Literate
