import Literate.Datum
import Literate.FileTree
import Literate.Settings
import Literate.Settings.EnvFile
import Literate.Text.Case

/-! # Where settings come from

A setting is given by the caller, else by an environment variable, else by a file of variables, else
it has its default. The variable of a setting is its name behind `MDTANGLE_`, in upper or lower case;
other variables do not matter, but the caller may give no other names. Variables hold texts: numbers and
truth values are read from them, and the list of directories is JSON. All that is wrong with the values
is reported together. -/

namespace Literate

namespace Settings

/-- What can be wrong with the value of a setting. -/
inductive Complaint where
  | notText
  | notNumber
  | unreadableNumber
  | hugeNumber
  | notTruth
  | unreadableTruth
  | notList
  | unknownName
deriving DecidableEq, Repr

/-- A complaint about a setting. -/
structure Objection where
  name : Text
  complaint : Complaint
deriving DecidableEq

/-- Why there are no settings: a list of directories that is no JSON, or values that do not fit. -/
inductive SourceError where
  | unreadableList
  | invalid (objections : List Objection)
deriving DecidableEq

def SourceError.failure : SourceError → Failure
  | unreadableList => .raised .unreadableSettings "the list of include directories is no JSON"
  | invalid objections =>
    .raised .invalidSettings s!"{objections.length} values of settings do not fit"

/-- What the sources of settings hold. -/
structure Sources where
  given : Table Text Datum := []
  environment : List (Text × Text) := []
  /-- The text of the file of variables. -/
  file : Text := []

/-! ### Values -/

def readText : Datum → Except (List Complaint) Text
  | .text t => .ok t
  | _ => .error [.notText]

/-- A whole number; a truth value counts as one or zero. -/
def readNumber : Datum → Except (List Complaint) Int
  | .int n => .ok n
  | .bool b => .ok (if b then 1 else 0)
  | .text t =>
    match Text.wholeNumber t with
    | .ok n => .ok n
    | .error .malformed => .error [.unreadableNumber]
    | .error .tooLong => .error [.hugeNumber]
  | _ => .error [.notNumber]

def truthWords : List (Text × Bool) :=
  (["1", "true", "yes", "on", "t", "y"].map fun word => (word.toList, true)) ++
    ["0", "false", "no", "off", "f", "n"].map fun word => (word.toList, false)

/-- Whether a number fits into 64 bits. -/
def isShort (n : Int) : Bool := -0x8000000000000000 ≤ n && n < 0x8000000000000000

def readTruth : Datum → Except (List Complaint) Bool
  | .bool b => .ok b
  | .int 0 => .ok false
  | .int 1 => .ok true
  | .int n => .error [if isShort n then .unreadableTruth else .notTruth]
  | .text t =>
    match truthWords.lookup (t.map Char.toLower) with
    | some b => .ok b
    | none => .error [.unreadableTruth]
  | _ => .error [.notTruth]

/-- The texts of a list, with one complaint for every item that is none. -/
def readItems : List Datum → Except (List Complaint) (List Text)
  | [] => .ok []
  | item :: rest =>
    match readText item, readItems rest with
    | .ok t, .ok ts => .ok (t :: ts)
    | .ok _, .error complaints => .error complaints
    | .error complaints, .ok _ => .error complaints
    | .error first, .error others => .error (first ++ others)

def readList : Datum → Except (List Complaint) (List Text)
  | .list items => readItems items
  | _ => .error [.notList]

/-! ### Settings from data -/

def names : List Text :=
  ["macro_open", "macro_close", "escape_char", "max_include_depth", "max_macro_depth",
   "extension_language", "include_dirs", "indent_unit", "dev_mode"].map String.toList

def listName : Text := "include_dirs".toList

/-- The value of a setting, and what is wrong with it. -/
def check {α : Type} (data : Table Text Datum) (name : String)
    (read : Datum → Except (List Complaint) α) (default : α) : α × List Objection :=
  match data.get? name.toList with
  | none => (default, [])
  | some d =>
    match read d with
    | .ok a => (a, [])
    | .error complaints => (default, complaints.map (Objection.mk name.toList))

def ofData (data : Table Text Datum) : Except SourceError Settings :=
  let d : Settings := {}
  let opening := check data "macro_open" readText d.delimiters.opening
  let closing := check data "macro_close" readText d.delimiters.closing
  let escape := check data "escape_char" readText d.delimiters.escape
  let includeDepth := check data "max_include_depth" readNumber d.maxIncludeDepth
  let macroDepth := check data "max_macro_depth" readNumber d.maxMacroDepth
  let language := check data "extension_language" readText d.extensionLanguage
  let dirs := check data "include_dirs" readList d.includeDirs
  let unit := check data "indent_unit" readText d.indentUnit
  let dev := check data "dev_mode" readTruth d.devMode
  let unknown := (data.keys.filter fun name => !names.contains name).map
    fun name => Objection.mk name .unknownName
  let objections := opening.2 ++ closing.2 ++ escape.2 ++ includeDepth.2 ++ macroDepth.2 ++
    language.2 ++ dirs.2 ++ unit.2 ++ dev.2 ++ unknown
  if objections.isEmpty then
    .ok
      { delimiters := { opening := opening.1, closing := closing.1, escape := escape.1 }
        maxIncludeDepth := includeDepth.1
        maxMacroDepth := macroDepth.1
        extensionLanguage := language.1
        includeDirs := dirs.1
        indentUnit := unit.1
        devMode := dev.1 }
  else .error (.invalid objections)

def data (s : Settings) : Table Text Datum :=
  names.zip
    [.text s.delimiters.opening, .text s.delimiters.closing, .text s.delimiters.escape,
     .int s.maxIncludeDepth, .int s.maxMacroDepth, .text s.extensionLanguage,
     .list (s.includeDirs.map .text), .text s.indentUnit, .bool s.devMode]

/-! ### Variables -/

def variableName (name : Text) : Text := "mdtangle_".toList ++ name

/-- The value of the variable of a setting; the last one counts, whether it has a value or not. -/
def variableText? (bound : List (Text × Option Text)) (name : Text) : Option Text :=
  (bound.reverse.find? fun (key, _) => Text.lower key = variableName name).bind Prod.snd

def variableDatum? (bound : List (Text × Option Text)) (name : Text) :
    Except SourceError (Option Datum) :=
  match variableText? bound name with
  | none => .ok none
  | some t =>
    if name ≠ listName then .ok (some (.text t))
    else
      match Datum.ofJson? t with
      | none => .error .unreadableList
      | some .null => .ok none
      | some d => .ok (some d)

def variableData (bound : List (Text × Option Text)) : Except SourceError (Table Text Datum) := do
  let found ← names.mapM fun name => do
    return (← variableDatum? bound name).map fun d => (name, d)
  return found.filterMap id

/-- The text of the file of variables in a tree. -/
def variablesIn (tree : FileTree) : Except Failure Text :=
  match tree.read (.ofText ".env".toList) with
  | .ok text => .ok text
  | .error .encoding => .error .encoding
  | .error _ => .ok []

def Sources.settings (sources : Sources) : Except SourceError Settings := do
  let environment ← variableData (sources.environment.map fun (name, value) => (name, some value))
  let file ← variableData (EnvFile.parse sources.environment sources.file)
  ofData (sources.given ++ environment ++ file)

/-- The settings of a program that runs in a tree, over those that are given to it. -/
def inTree (given : Table Text Datum) (tree : FileTree) : Except Failure Settings := do
  let sources : Sources := { given, file := ← variablesIn tree }
  sources.settings.mapError SourceError.failure

end Settings
end Literate
