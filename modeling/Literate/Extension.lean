import Literate.Script.Eval
import Literate.Script.Reader
import Literate.Tangle

/-! # Extension code in a document

Conditions and extension blocks run in one context. Code finds there the context itself, the table of
filters, the table of blocks to inject and the two makers of filters. After the blocks of a document
are assembled, the injected blocks are merged over them, and a function named `parse_hook`, if code
has defined one, has the last word on the root and the named blocks. All of it together is an engine for
tangling, which covers a part of the language that extension code is written in. -/

namespace Literate

namespace Script

open Text

/-! ### The context -/

def hookName : Text := "parse_hook".toList

def ownName : Text := "mdtangle_extension".toList

/-- The name under which code finds the table of the fixed names. -/
def fixedName : Text := "__builtins__".toList

def fixedTable : List (Value × Value) := builtins.map fun (name, v) => (.text name, v)

/-- The names that are there from the start; the tables of the blocks to inject and of the fixed names
are at the addresses. -/
def initialNames (injected fixed : Nat) : Table Text Value :=
  [("__name__".toList, .text ownName), (fixedName, .cell fixed),
   ("context".toList, .builtin .context), ("filters".toList, .builtin .filters),
   ("blocks".toList, .cell injected), ("Filter".toList, .builtin (.filterMaker false)),
   ("LineFilter".toList, .builtin (.filterMaker true))]

/-- A context with the built-in filters, and nothing else. -/
def Context.fresh (indentUnit : Text) : Context :=
  let filters := BuiltinFilter.all indentUnit
  let table := filters.zipIdx.map fun (f, address) => (Value.text f.1, Value.cell address)
  let tables := #[.dict table, .dict [], .dict fixedTable]
  { store := (filters.map fun f => Object.builtinFilter f.2).toArray ++ tables
    globals := initialNames (filters.length + 1) (filters.length + 2)
    registered := filters.length
    injected := filters.length + 1 }

/-- Bind a global name. -/
def define (name : Text) (v : Value) : Run Context Unit := bindName none name v

/-- Register a filter of the surrounding program. -/
def registerHost (name : Text) (f : ValueView → List Value → Except Fault (List Value)) :
    Run Context Unit := do
  register (.text name) (← allocate (.hostFilter f))

/-- Let calls nest deeper for the time of an action. -/
def withCalls {α : Type} (calls : Nat) (x : Run Context α) : Run Context α := fun c =>
  let out := x.run { c with calls := max c.calls calls }
  { out with state := { out.state with calls := c.calls } }

/-- The variables of extension code, sorted by name: everything but what is always there. -/
def Context.variables (c : Context) : List (Text × Value) :=
  let hidden := fixedName :: ["__name__", "context", "filters"].map String.toList
  let shown := c.globals.filter fun (name, v) =>
    !hidden.contains name && !(name = "blocks".toList && v = .cell c.injected)
  shown.mergeSort fun a b => Context.comparePoints (a.1.map .char) (b.1.map .char) != .gt

/-! ### Conditions and blocks of code -/

def noteRemarks (label : String) : List Remark → Run Context Unit
  | [] => return ()
  | ⟨line, message⟩ :: rest => do
    Run.note (.remark s!"{label}:{line}: SyntaxWarning: {message}")
    noteRemarks label rest

/-- Go on with code that has been read; `label` names it. -/
def readCode {α : Type} (label : String) (code : Read α) : Run Context α := do
  noteRemarks label code.remarks
  Run.ofResult (code.result.mapError (ReadError.failure label))

def conditionValue (condition : Text) : Run Context Value := do
  let room := (← Run.get).calls
  eval (globalScope room) (← readCode "<string>" (parseExpr room condition))

/-- Whether a condition holds. -/
def evaluate (condition : Text) : Run Context Bool := do
  let v ← (conditionValue condition).mapFault (·.under (.conditionFailed condition))
  let holds := (← Run.get).truth v
  let shown := if holds then "True" else "False"
  Run.progress 3 s!"Condition {str (quoted condition)} -> {shown}"
  return holds

/-- A text at the start of a program is its description. -/
def describe : List Stmt → Run Context Unit
  | .expr (.text t) :: _ => define "__doc__".toList (.text t)
  | .expr (.torn points) :: _ => define "__doc__".toList (.torn points)
  | _ => return ()

def runProgram (label : String) (code : Text) : Run Context Unit := do
  let room := (← Run.get).calls
  let statements ← readCode label (parseProgram room code)
  describe statements
  let _ ← execAll (globalScope room) statements
  return ()

def firstLine (code : Text) : Text := (strip code).takeWhile fun c => !isLineBoundary c

def execute (code : Text) : Run Context Unit :=
  (runProgram "<extension block>" code).mapFault (·.under (.extensionFailed (firstLine code)))

/-! ### Filters -/

def applyFilter (f : Value) : Filter Context := fun items => do
  let c ← Run.get
  match c.object? f with
  | some (.builtinFilter b) => Run.ofResult (b.onValues c.view items)
  | some (.hostFilter h) => Run.ofExcept (h c.view items)
  | some (.madeFilter true code) => items.mapM fun item => call code [item]
  | some (.madeFilter false code) => do
    let argument ← allocate (.list items)
    iterate (← call code [argument])
  | _ =>
    match f with
    | .builtin (.filterMaker perLine) =>
      let name := if perLine then "LineFilter" else "Filter"
      wrongType (missingArguments (name ++ ".filter").toList ["lines".toList])
    | f => Run.failure (c.lacks f "filter".toList)

def registered? (name : Text) : Run Context (Option Value) := do
  let c ← Run.get
  return c.entry? c.filterEntries (.text name)

def findFilter (name : Text) : Run Context (Option (Filter Context)) := do
  match ← registered? name with
  | none | some .none => return none
  | some f => return some (applyFilter f)

def applyChain (names : List Text) (items : List Value) : Run Context (List Value) :=
  Filter.chain findFilter names items

/-- The lines that a chain of filters makes of values. -/
def filterLines (names : List Text) (items : List Value) : Run Context (List Text) := do
  let items ← applyChain names items
  Run.ofResult (Filter.texts (← Run.get).view items)

/-! ### The hook -/

/-- The root and the named blocks after the hook: as assembled, or whatever the hook gave back. -/
inductive Assembly where
  | plain (root : Option (List Value)) (named : Table Value (List Value))
  | given (root named : Value)

/-- Merge the injected blocks over the assembled ones; the one with the empty name is the root. -/
def mergeInjected : List (Value × Value) → Option (List Value) → Table Value (List Value) →
    Run Context (Option (List Value) × Table Value (List Value))
  | [], root, named => return (root, named)
  | (key, v) :: rest, root, named => do
    let items ← iterate v
    if key = .text [] then mergeInjected rest (some items) named
    else mergeInjected rest root (named.set key items)

def unpackTwo (v : Value) : Run Context (Value × Value) := do
  let c ← Run.get
  match c.members? v with
  | some [a, b] => return (a, b)
  | some items => Run.failure (.unpack items.length)
  | none => wrongType s!"cannot unpack non-iterable {c.typeName v} object"

/-- Put the assembled blocks into the store and call the hook on them. -/
def callHook (hook : Value) (root : Option (List Value)) (named : Table Value (List Value)) :
    Run Context Assembly := do
  let rootValue ← match root with
    | none => pure Value.none
    | some items => allocate (.list items)
  let entries ← named.mapM fun (name, items) => do
    return (name, ← allocate (.list items))
  let namedValue ← allocate (.dict entries)
  let result ← call hook [rootValue, namedValue]
  let (root, named) ← unpackTwo result
  return .given root named

/-- Let extension code adjust the assembled blocks. -/
def adjust (bodies : Block.Bodies) : Run Context Assembly := do
  let asValues (lines : List Text) : List Value := lines.map .text
  let injected := (← Run.get).injectedEntries
  let assembled := bodies.named.map fun (name, lines) => (Value.text name, asValues lines)
  let (root, named) ← mergeInjected injected (bodies.root.map asValues) assembled
  match (← Run.get).globals.get? hookName with
  | none | some .none => return .plain root named
  | some hook => (callHook hook root named).mapFault (·.under .hookFailed)

/-! ### Expansion of what the hook left -/

/-- How many members a value has now. -/
def sizeOf (v : Value) : Run Context Nat := do
  let c ← Run.get
  match c.members? v with
  | some items => return items.length
  | none => wrongType s!"object of type '{c.typeName v}' has no len()"

/-- The member of a value at a position now. A table that had another size when going through it began
cannot be gone through further. -/
def memberNow? (v : Value) (size : Nat) (position : Nat) : Run Context (Option Value) := do
  let c ← Run.get
  let items := (c.members? v).getD []
  if c.hasKeys v && items.length ≠ size then
    Run.failure (.raised .runtime "dictionary changed size during iteration")
  else return items[position]?

/-- The body that a value stands for. Extension code may change it while it is expanded; its positions
are counted in a word. -/
def bodyOf (c : Context) (v : Value) : Body Context Value :=
  .shared (sizeOf v) (memberNow? v ((c.members? v).getD []).length) (wordLimit - 1).toNat

/-- The body that a value stands for, if it is one. -/
def body? (c : Context) (v : Value) : Option (Body Context Value) :=
  if v = .none then none else some (bodyOf c v)

namespace Assembly

def body? (assembly : Assembly) (name : Text) : Run Context (Option (Body Context Value)) := do
  match assembly with
  | plain _ named => return (named.get? (.text name)).map .fixed
  | given _ named =>
    let c ← Run.get
    match named, c.object? named with
    | .builtin .filters, _ => return Script.body? c ((← registered? name).getD .none)
    | _, some (.dict entries) => return Script.body? c ((c.entry? entries (.text name)).getD .none)
    | named, _ => Run.failure (c.lacks named "get".toList)

/-- The text of an item of a body. Code points that are no text stay what they are; that they hold no
reference can only be told if they do not open one. -/
def line? (opening : Text) (v : Value) : Run Context (Option Text) := do
  match v with
  | .text t => return some t
  | .torn points =>
    if Point.occursIn (opening.map .char) points then
      Run.failure (BuiltinFilter.onTorn "an expansion")
    else return none
  | .builtin .str => wrongType "object of type 'type' has no len()"
  | v => Run.failure ((← Run.get).lacks v "lstrip".toList)

def root? (c : Context) : Assembly → Option (Body Context Value)
  | plain root _ => root.map .fixed
  | given root _ => Script.body? c root

def members (c : Context) : Assembly → Except Failure (List Value)
  | plain root _ => .ok (root.getD [])
  | given root _ =>
    match c.members? root with
    | some items => .ok items
    | none => .error (.wrongType s!"'{c.typeName root}' object is not iterable")

end Assembly

/-- Take the escape away from protected delimiters in a value. -/
def unescapeValue (d : Delimiters) : Value → Value
  | .text t => .text (d.unescape t)
  | .torn points =>
    let release (delimiter : Text) : List Point → List Point :=
      replaceAll ((d.escape ++ delimiter).map .char) (delimiter.map .char)
    .torn (release d.closing (release d.opening points))
  | v => v

def writtenText (c : Context) : Value → Except Failure Text
  | .text t => .ok t
  | .torn _ => .error .unencodable
  | v => .error (.wrongType s!"write() argument must be str, not {c.typeName v}")

/-- How many of the calls that room is made for are taken when extension code starts. -/
def callsBefore : Int := 8

/-- Let calls nest as deep as room is made for by the settings. -/
def withRoomOf {α : Type} (settings : Settings) (x : Run Context α) : Run Context α :=
  withCalls (settings.callDepth - callsBefore).toNat x

def engine (settings : Settings) : Engine Context Value Assembly where
  evaluate condition := withRoomOf settings (evaluate condition)
  execute code := withRoomOf settings (execute code)
  adjust bodies := withRoomOf settings (adjust bodies)
  root? := Assembly.root?
  scope assembly :=
    { body? := assembly.body?
      line? := Assembly.line? settings.delimiters.opening
      ofText := .text
      filter := fun names items => withRoomOf settings (filterLines names items) }
  unescape := unescapeValue
  lines := Assembly.members
  written := writtenText

end Script
end Literate
