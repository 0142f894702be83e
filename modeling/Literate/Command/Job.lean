import Literate.Path
import Literate.Settings.Sources

/-! # Jobs

A job is what the command has been asked to do and how far it has come: which document is to be tangled
or woven, where the result goes, and what the stages of the command have found out. -/

namespace Literate.Command

/-- What came of writing the result. -/
structure WriteResult where
  written : Bool
  file : Option Path
  lineCount : Nat
deriving DecidableEq

/-- A job of the command. A name that is none was asked for without saying it. -/
structure Job where
  inputDir : Path
  outputDir : Path
  verbosity : Int := 1
  inputFile : Option Text := some []
  outputFile : Option Text := some []
  includePath : List (Option Text) := []
  weave : Bool := false
  dev : Bool := false
  /-- Whether the files and directories have been found. -/
  checked : Bool := false
  source : Path := .ofText ['/']
  target : Path := .ofText ['/']
  includeDirs : List Path := []
  /-- Whether the self test has passed. -/
  tested : Bool := false
  lines : Option (List (Except Failure Text)) := none
  result : Option WriteResult := none

namespace Job

/-- The parts of a job and what they hold before anything is known. -/
def parts : Table Text Datum :=
  [("inputdir", .null), ("outputdir", .null), ("verbosity", .int 1), ("inputFile", .text []),
   ("outputFile", .text []), ("includePath", .list []), ("weave", .bool false), ("dev", .bool false),
   ("envOK", .bool false), ("inputSourceFile", .text ['/']), ("outputTargetFile", .text ['/']),
   ("includeDirs", .list []), ("selfTestOK", .bool false), ("processedLines", .null),
   ("writeResult", .null)].map fun (name, value) => (name.toList, value)

def option? (options : Table Text Datum) (name : Text) : Option Datum :=
  (options.get? name).filter fun value => !value.isNull

/-- The parts of a job as options and the two directories describe it. Options that are no part of a
job, and options without a value, do not matter. -/
def describe (options : Table Text Datum) (inputDir outputDir : Path) : Table Text Datum :=
  let known : Table Text Datum := parts.map fun (name, value) => (name, (option? options name).getD value)
  (known.set "inputdir".toList (.text inputDir.text)).set "outputdir".toList (.text outputDir.text)

/-- The name that an option gives. -/
def given? : Datum → Option Text
  | .text t => some t
  | _ => none

/-- The names that a repeated option gives. -/
def allGiven : Datum → List (Option Text)
  | .list items => items.map given?
  | _ => []

/-- The value of an option, if there is one that fits. -/
def option {α : Type} (options : Table Text Datum) (name : String)
    (read : Datum → Except (List Settings.Complaint) α) (default : α) : α :=
  match (option? options name.toList).map read with
  | some (.ok value) => value
  | _ => default

def ofOptions (options : Table Text Datum) (inputDir outputDir : Path) : Job where
  inputDir := inputDir
  outputDir := outputDir
  verbosity := option options "verbosity" Settings.readNumber 1
  inputFile := (option? options "inputFile".toList).elim (some []) given?
  outputFile := (option? options "outputFile".toList).elim (some []) given?
  includePath := (option? options "includePath".toList).elim [] allGiven
  weave := option options "weave" Settings.readTruth false
  dev := option options "dev" Settings.readTruth false

end Job
end Literate.Command
