import Literate.Extension
import Literate.SelfTest.Documents
import Literate.Settings.Sources

/-! # The self test

The self test tangles its own document, runs the program that comes out, and checks the names that the
program binds. It works on a file tree of its own. A failed check is a problem; in development mode it
is only a warning. What runs the program and looks at its names is the host. -/

namespace Literate

namespace SelfTest

/-! ### Checks -/

/-- What a check expects of a value. -/
inductive Expected where
  | text (s : String)
  | number (n : Int)
  | texts (items : List String)

/-- What a check looks at. -/
inductive Condition where
  /-- Names that must all be bound to something true. -/
  | holds (names : List String)
  /-- A name that must be bound to a value. -/
  | equals (name : String) (value : Expected)
  /-- A name that must be bound to a table with an entry. -/
  | entry (name key value : String)

/-- A check: what must hold, and what is wrong if it does not. -/
structure Check where
  complaint : String
  condition : Condition

end SelfTest

/-- What the command needs to run documents: an engine, a context to start from, and a way to run a
program on its own and look at what it leaves behind. -/
structure Host (ε ι α : Type) where
  engine : Settings → Engine ε ι α
  fresh : Settings → ε
  /-- Run a program that knows of nothing: whether conditions are met afterwards. -/
  trial : Text → Except Fault (SelfTest.Condition → Except Failure Bool)

namespace SelfTest

open Script

def conditionalEntry (complaint key value : String) : Check :=
  ⟨"conditional output: " ++ complaint, .entry "conditional_results" key value⟩

def checks : List Check :=
  [⟨"block replacement doesn't work", .holds ["block_replacement", "replaced_block"]⟩,
   ⟨"appending to macros doesn't work", .holds ["block_appendment"]⟩,
   ⟨"insertion must support spaces", .holds ["insertion_works_with_spaces"]⟩,
   ⟨"macro delimiters may be escaped", .equals "escaped_string" (.text "⦅macro_description⦆")⟩,
   ⟨"Should be able to place two macros on the same line", .equals "two_macros" (.text "foo foo")⟩,
   ⟨"string_escape doesn't escape backslash",
     .equals "string_with_backslash" (.text "this string ends in \\.")⟩,
   ⟨"double_quote doesn't double quote", .equals "some_text" (.text "some text")⟩,
   ⟨"indent_lines should add two spaces to lines",
     .equals "some_indented_text" (.text "  some text")⟩,
   ⟨"add_comma isn't adding commas", .equals "items" (.texts ["item 1", "item 2"])⟩,
   ⟨"indent_continuation should indent continuation lines", .equals "continued" (.number 3)⟩,
   ⟨"filters registered by extensions should be usable", .equals "shouted" (.text "QUIET")⟩,
   ⟨"included replacements should replace blocks",
     .equals "included_string" (.text "I came from selftest_include.lmd")⟩,
   ⟨"extension hook should be able to add blocks", .holds ["from_extension"]⟩,
   conditionalEntry "if should win when if and elsif are true" "if-true-elsif-true" "if",
   conditionalEntry "if should win when elsif is false" "if-true-elsif-false" "if",
   conditionalEntry "elsif should be output when if is false and elsif is true"
     "if-false-elsif-true" "elsif",
   conditionalEntry "else should be output when neither if nor elsif is true"
     "if-false-elsif-false" "else",
   conditionalEntry "else should not be output when if is true" "if-true-else" "if",
   conditionalEntry "else should be output when if is false" "if-false-else" "else"]

def Expected.isMet (c : Context) (v : Value) : Expected → Bool
  | .text s => v == .text s.toList
  | .number n => v.int? == some n
  | .texts items =>
    match c.object? v with
    | some (.list found) => found == items.map fun item => .text item.toList
    | _ => false

/-- Whether a condition is met. A name that is not bound does not meet it; looking up an entry in what
is no table is a failure. -/
def Condition.isMet (c : Context) : Condition → Except Failure Bool
  | .holds names => .ok (names.all fun name =>
      match c.globals.get? name.toList with
      | some v => c.truth v
      | none => false)
  | .equals name value => .ok (
      match c.globals.get? name.toList with
      | some v => value.isMet c v
      | none => false)
  | .entry name key value =>
    match c.globals.get? name.toList with
    | none => .ok false
    | some v =>
      match c.object? v with
      | some (.dict entries) =>
        .ok (c.entry? entries (.text key.toList) == some (.text value.toList))
      | _ => .error (.noMember (c.typeName v) "get".toList)

/-- Go through checks; the result is whether all of them are met. -/
def examine {σ : Type} (dev : Bool) (isMet : Condition → Except Failure Bool) : List Check → Run σ Bool
  | [] => return true
  | check :: rest => do
    let met ← Run.ofResult (isMet check.condition)
    let problem := Problem.checkFailed check.complaint
    if !met then
      if dev then Run.note (.warning problem.message) else Run.problem problem
    let others ← examine dev isMet rest
    return met && others

/-! ### The test -/

/-- The settings the documents are written for. The file of variables in a tree can only choose the
development mode, but all of it has to fit. -/
def settingsIn (tree : FileTree) : Except Failure Settings :=
  Settings.inTree ((Settings.data {}).erase "dev_mode".toList) tree

variable {ε ι α σ : Type}

/-- Write the documents into a directory and tangle the first one. -/
def tangle (host : Host ε ι α) (documents : Documents) (settings : Except Failure Settings) (stack : Nat)
    (directory : Path) : Run FileTree (List (Except Failure Text)) := do
  let file (name : String) : Path := directory.join (.ofText name.toList)
  changeTree (·.write (file "selftest.lmd") documents.document)
  changeTree (·.write (file "selftest_include.lmd") documents.included)
  let settings ← Run.ofResult settings
  let tangler : Tangler ε ι α := { input := file "selftest.lmd", context := host.fresh settings }
  let product := Tangler.product (host.engine settings) settings stack (← Run.get)
  return ((← product.aside tangler).getD [])

def workDirectory : Path := .ofText "<tmp>".toList

def workTree : FileTree := FileTree.plant {} workDirectory .directory

/-- Run the program that texts form. -/
def tryOut (host : Host ε ι α) (texts : List (Except Failure Text)) :
    Except Fault (Condition → Except Failure Bool) := do
  let texts ← (texts.mapM id).mapError Fault.ofFailure
  host.trial texts.flatten

/-- Run the self test: whether every check is met. The test tangles its document two calls further on. -/
def run (host : Host ε ι α) (documents : Documents) (settings : Except Failure Settings) (stack : Nat)
    (dev : Bool) : Run σ Bool := do
  Run.progress 2 "Running self test..."
  let texts ← (tangle host documents settings (stack + 2) workDirectory).aside workTree
  match tryOut host texts with
  | .error fault =>
    let broken := fault.under .selfTestBroken
    if dev then
      Run.note (.warning s!"{broken.message}: {fault.message}")
      return false
    else Run.fail broken
  | .ok isMet =>
    let passed ← examine dev isMet checks
    Run.progress 2 (if passed then "Self test passed" else "Self test failed")
    return passed

end SelfTest

namespace Script

/-- The context in which a program runs that knows of nothing. -/
def emptyContext : Context :=
  let c := Context.fresh []
  { c with globals := c.globals.filter (·.1 = fixedName) }

/-- Run a program on its own, and look at the names it binds. -/
def trial (code : Text) : Except Fault (SelfTest.Condition → Except Failure Bool) :=
  let program := (runProgram "<selftest>" code).run emptyContext
  program.result.map fun _ => SelfTest.Condition.isMet program.state

def host : Host Context Value Assembly where
  engine := engine
  fresh settings := .fresh settings.indentUnit
  trial := trial

end Script
end Literate
