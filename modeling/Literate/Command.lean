import Literate.Command.Arguments
import Literate.Command.Job
import Literate.SelfTest
import Literate.Weave

/-! # The command

The command tangles or weaves one document. It looks for the files it needs, runs the self test,
processes the document and writes the result. All of it is a function on the file tree: what is written
on the two output streams, how the command ends and which tree it leaves. Only the last stage writes a
file, so a run that ends before it has changed no file. Documents run on a host. -/

namespace Literate.Command

open Text

variable {ε ι α : Type}

def commandName : String := "mdtangle"

def versionText : String := "1.0.0"

/-- The options and arguments of the command. The last two options are accepted, but nothing comes of
them. -/
def usage : Usage where
  switches :=
    [⟨["-h".toList, "--help".toList], "help".toList, .help, false⟩,
     ⟨["--inputFile".toList], "inputFile".toList, .store, true⟩,
     ⟨["--outputFile".toList], "outputFile".toList, .store, true⟩,
     ⟨["--includePath".toList], "includePath".toList, .append, false⟩,
     ⟨["--weave".toList], "weave".toList, .mark, false⟩,
     ⟨["--dev".toList], "dev".toList, .mark, false⟩,
     ⟨["-v".toList, "--verbosity".toList], "verbosity".toList, .count, false⟩,
     ⟨["-V".toList, "--version".toList], "version".toList, .version, false⟩,
     ⟨["--saveinputmeta".toList], "saveinputmeta".toList, .mark, false⟩,
     ⟨["--saveoutputmeta".toList], "saveoutputmeta".toList, .mark, false⟩]
  positionals := ["inputdir".toList, "outputdir".toList]
  defaults := [("verbosity".toList, .int 1)]

def usageText : String :=
  "usage: " ++ commandName ++ " [-h] --inputFile INPUTFILE --outputFile OUTPUTFILE " ++
    "[--includePath INCLUDEPATH] [--weave] [--dev] [-v] [-V] [--saveinputmeta] " ++
    "[--saveoutputmeta] inputdir outputdir"

/-- Why the command refuses to work. -/
inductive Refusal where
  | notDirectory (path : Path)
  | inputMissing (path : Path)
  | includeDirMissing (path : Path)
deriving DecidableEq

def Refusal.message : Refusal → String
  | notDirectory path => s!"Not a directory: {path}"
  | inputMissing path => s!"Error: Input file not found: {path}"
  | includeDirMissing path => s!"Error: Include directory not found: {path}"

/-! ### Stages -/

/-- Make the output directory if it is not there, and see that both directories are directories. -/
def prepareDirectories (inputDir outputDir : Path) : Run FileTree (Except Refusal Unit) := do
  let tree ← Run.get
  if !(← Run.ofResult (tree.test outputDir fun _ => true)) then
    Directory.makeAll outputDir
  let tree ← Run.get
  if !(← Run.ofResult (tree.isDirectory outputDir)) then return .error (.notDirectory outputDir)
  else if !(← Run.ofResult (tree.isDirectory inputDir)) then return .error (.notDirectory inputDir)
  else return .ok ()

/-- The failure of a path whose name was not said. -/
def noName : Failure := .wrongType "expected str, bytes or os.PathLike object, not list"

def pathIn (directory : Path) (name : Option Text) : Except Failure Path :=
  match name with
  | some name => .ok (directory.join (.ofText name))
  | none => .error noName

/-- The include directories that were asked for, as far as they are directories. -/
def findIncludeDirs (tree : FileTree) (inputDir : Path) :
    List (Option Text) → Except Failure (Except Refusal (List Path))
  | [] => .ok (.ok [])
  | directory :: rest => do
    let path ← pathIn inputDir directory
    if ← tree.isDirectory path then
      return (← findIncludeDirs tree inputDir rest).map (path :: ·)
    else return .error (.includeDirMissing path)

def shownPaths (paths : List Path) : Text :=
  '[' :: joinWith ", ".toList (paths.map fun path => quoted path.text) ++ [']']

/-- Find the document and the include directories, and make the directory of the result. -/
def checkEnvironment (settings : Settings) (job : Job) : Run FileTree (Except Refusal Job) := do
  Run.progress 2 "Checking environment..."
  let tree ← Run.get
  let source ← Run.ofResult (pathIn job.inputDir job.inputFile)
  if ← Run.ofResult (tree.isFile source) then
    Run.progress 2 s!"Input file: {source}"
    match ← Run.ofResult (findIncludeDirs tree job.inputDir job.includePath) with
    | .error refusal => return .error refusal
    | .ok dirs =>
      let includeDirs := settings.includeDirs.map Path.ofText ++ dirs
      Run.progress 2 s!"Include directories: {str (shownPaths includeDirs)}"
      let target ← Run.ofResult (pathIn job.outputDir job.outputFile)
      Directory.ensureAll target.parent
      Run.progress 2 s!"Output file: {target}"
      return .ok { job with source, target, includeDirs, checked := true }
  else return .error (.inputMissing source)

def runSelfTest (host : Host ε ι α) (settings : Settings) (stack : Nat) (documents : SelfTest.Documents)
    (job : Job) : Run FileTree Job := do
  Run.progress 1 "Running self test..."
  let tree ← Run.get
  let tested ←
    SelfTest.run host documents (SelfTest.settingsIn tree) stack (job.dev || settings.devMode)
  return { job with tested }

def weave (settings : Settings) (stack : Nat) (job : Job) : Run FileTree (List Text) := do
  Run.progress 1 "Weaving document..."
  let tree ← Run.get
  let lines ← Run.ofExcept (Include.readLines tree job.source)
  let weaver : Weaver := { lines, file := job.source, dirs := job.includeDirs }
  (Weaver.weave settings stack tree).aside weaver

def tangle (host : Host ε ι α) (settings : Settings) (stack : Nat) (job : Job) :
    Run FileTree (Option (List (Except Failure Text))) := do
  Run.progress 1 "Tangling document..."
  let tree ← Run.get
  let tangler : Tangler ε ι α :=
    { input := job.source, context := host.fresh settings, search := { dirs := job.includeDirs } }
  (Tangler.product (host.engine settings) settings stack tree).aside tangler

/-- Tangle or weave the document. -/
def process (host : Host ε ι α) (settings : Settings) (stack : Nat) (job : Job) : Run FileTree Job := do
  if job.weave then return { job with lines := some ((← weave settings stack job).map .ok) }
  else return { job with lines := ← tangle host settings stack job }

def writeResult (job : Job) : Run FileTree Job :=
  match job.lines with
  | none => do
    Run.progress 1 "No output block found, nothing written"
    return { job with result := some ⟨false, none, 0⟩ }
  | some texts => do
    writeTexts job.target texts
    return { job with result := some ⟨true, some job.target, texts.length⟩ }

/-- Say what was written. -/
def report (job : Job) : Run FileTree Unit :=
  match job.result with
  | some ⟨true, some file, count⟩ => Run.progress 1 s!"✓ Wrote {file} ({count} lines)"
  | _ => return ()

/-- The stages of a job whose environment was found. -/
def carryOut (host : Host ε ι α) (settings : Settings) (stack : Nat) (documents : SelfTest.Documents)
    (job : Job) : Run FileTree (Except Refusal Unit) := do
  let job ← runSelfTest host settings stack documents job
  let job ← process host settings stack job
  let job ← writeResult job
  report job
  return .ok ()

/-- All stages of a job, one after the other. -/
def perform (host : Host ε ι α) (settings : Settings) (stack : Nat) (documents : SelfTest.Documents)
    (job : Job) : Run FileTree (Except Refusal Unit) := do
  match ← checkEnvironment settings job with
  | .error refusal => return .error refusal
  | .ok job => carryOut host settings stack documents job

/-- Prepare the directories of a job and do it. -/
def start (host : Host ε ι α) (settings : Settings) (stack : Nat) (documents : SelfTest.Documents)
    (job : Job) : Run FileTree (Except Refusal Unit) := do
  match ← prepareDirectories job.inputDir job.outputDir with
  | .error refusal => return .error refusal
  | .ok () => perform host settings stack documents job

/-! ### The whole command -/

/-- How a run of the command ends: with a status, or with a failure that nothing handles. -/
inductive Ending where
  | status (code : Nat)
  | failed (fault : Fault)
deriving DecidableEq

/-- What a run of the command shows and leaves behind. -/
structure Report where
  ending : Ending
  output : String := ""
  complaint : String := ""
  /-- Whether the chain of calls that led to a fault is shown too. -/
  traced : Bool := false
  log : List Entry := []
  tree : FileTree

/-- The job that arguments describe; there is none if a directory has no value. -/
def readJob (arguments : List Text) : Except Stop (Option Job) := do
  let (options, positions) ← usage.read arguments
  let directory? (name : String) : Option Path :=
    (positions.get? name.toList).bind fun value => value.map Path.ofText
  match directory? "inputdir", directory? "outputdir" with
  | some inputDir, some outputDir => return some (.ofOptions options inputDir outputDir)
  | _, _ => return none

def remarkLines (log : List Entry) : String :=
  String.join ((log.filterMap Entry.remark?).map (· ++ "\n"))

/-- What is shown of a job that was done or given up. -/
def reportOf (job : Job) (outcome : Outcome FileTree (Except Refusal Unit)) : Report :=
  let log := outcome.log.filter (Entry.shownAt job.verbosity)
  let remarks := remarkLines outcome.log
  let tree := outcome.state
  match outcome.result with
  | .ok (.ok ()) => { ending := .status 0, complaint := remarks, log, tree }
  | .ok (.error refusal) =>
    { ending := .status 1, complaint := remarks ++ refusal.message ++ "\n", log, tree }
  | .error fault =>
    if fault.isProblem then
      { ending := .status 1, complaint := remarks ++ fault.report ++ "\n",
        traced := 3 ≤ job.verbosity, log, tree }
    else { ending := .failed fault, complaint := remarks, log, tree }

def run (host : Host ε ι α) (settings : Settings) (stack : Nat) (documents : SelfTest.Documents)
    (arguments : List Text) (tree : FileTree) : Report :=
  match readJob arguments with
  | .error .version =>
    { ending := .status 0, output := commandName ++ " " ++ versionText ++ "\n", tree }
  | .error .help => { ending := .status 0, output := usageText ++ "\n", tree }
  | .error (.misuse misuse) =>
    { ending := .status 2, complaint := s!"{commandName}: error: {misuse.message}\n", tree }
  | .ok none => { ending := .failed (.ofFailure noName), tree }
  | .ok (some job) => reportOf job ((start host settings stack documents job).run tree)

end Literate.Command
