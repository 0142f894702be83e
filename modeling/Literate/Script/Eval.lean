import Literate.Script.Store
import Literate.Script.Uncovered
import Literate.Text.Case

/-! # Running extension code

Expressions and statements act on a context. Names are looked up in the frames around a call, then
among the global names, then among the fixed ones. Calls may nest only so deep; `callWithin` goes down
by that bound, everything else by the structure of the program. -/

namespace Literate.Script

open Text

/-! ### Names -/

/-- The description of the values with fixed names. -/
def builtinsDoc : String :=
  "Built-in functions, exceptions, and other objects.\n\n" ++
  "Noteworthy: None is the `nil' object; Ellipsis represents `...' in slices."

/-- The values with fixed names. -/
def builtins : Table Text Value :=
  [("__name__".toList, .text "builtins".toList), ("__doc__".toList, .text builtinsDoc.toList),
   ("__package__".toList, .text []), ("__debug__".toList, .bool true),
   ("len".toList, .builtin .len), ("str".toList, .builtin .str),
   ("ValueError".toList, .builtin (.failure .value)), ("KeyError".toList, .builtin (.failure .key)),
   ("RuntimeError".toList, .builtin (.failure .runtime))]

/-- The value of a local name, going outwards through the frames; a name that a frame will bind, but
has not bound yet, is an error, which `unbound` gives. -/
def localName (c : Context) (n : Text) (unbound : Text → Failure) :
    Nat → Option Nat → Except Failure (Option Value)
  | 0, _ => .ok none
  | _, none => .ok none
  | fuel + 1, some address =>
    match c.store[address]? with
    | some (.frame names bound outer) =>
      match names.get? n with
      | some v => .ok (some v)
      | none =>
        if bound.contains n then .error (unbound n) else localName c n .unboundFree fuel outer
    | _ => .ok none

/-- The value of a name. -/
def lookUp (frame : Option Nat) (n : Text) : Run Context Value := do
  let c ← Run.get
  match localName c n .unboundLocal c.depth frame with
  | .error f => Run.failure f
  | .ok (some v) => return v
  | .ok none =>
    match c.globals.get? n with
    | some v => return v
    | none =>
      match builtins.get? n with
      | some v => return v
      | none =>
        if uncoveredNames.contains (str n) then Run.failure (.unsupported (str n))
        else Run.failure (.unboundName n)

def bindName (frame : Option Nat) (n : Text) (v : Value) : Run Context Unit := do
  let c ← Run.get
  match frame with
  | none => Run.set { c with globals := c.globals.set n v }
  | some address =>
    match c.store[address]? with
    | some (.frame names bound outer) => replace address (.frame (names.set n v) bound outer)
    | _ => pure ()

/-! ### Operators -/

def Comparison.symbol : Comparison → String
  | equal => "=="
  | unequal => "!="
  | less => "<"
  | lessEqual => "<="
  | greater => ">"
  | greaterEqual => ">="
  | isIn => "in"
  | notIn => "not in"

/-- How an operation is written. -/
def Arithmetic.symbol : Arithmetic → String
  | add => "+"
  | subtract => "-"
  | multiply => "*"
  | divide => "/"

def Comparison.holds : Comparison → Ordering → Bool
  | less, o => o == .lt
  | lessEqual, o => o != .gt
  | greater, o => o == .gt
  | _, o => o != .lt

def callTooDeep : Failure := .recursion " while calling a Python object"

def comparisonTooDeep : Failure := .recursion " in comparison"

/-- Make sure that there is room for some nested calls of functions. -/
def needRoom (room calls : Nat) : Run Context Unit :=
  if room < calls then Run.failure (.recursion "") else return ()

/-- Make sure that there is room for a call if a value is the table of filters, whose operations are
functions. -/
def needRoomFor (room calls : Nat) (v : Value) : Run Context Unit :=
  if v = .builtin .filters then needRoom room calls else return ()

/-- Whether a value counts as true. -/
def truthOf (room : Nat) (v : Value) : Run Context Bool := do
  needRoomFor room 1 v
  return (← Run.get).truth v

def isAmong (room : Nat) (v : Value) : List Value → Run Context Bool
  | [] => return false
  | item :: rest => do
    match (← Run.get).equal? room item v with
    | some true => return true
    | some false => isAmong room v rest
    | none => Run.failure comparisonTooDeep

/-- Whether a value is among the members of another. -/
def contains (room : Nat) (v container : Value) : Run Context Bool := do
  needRoomFor room 1 container
  let c ← Run.get
  match container.points?, v.points? with
  | some t, some s => return Point.occursIn s t
  | some _, none => wrongType s!"'in <string>' requires string as left operand, not {c.typeName v}"
  | none, _ =>
    if c.hasKeys container then needKey v
    match c.members? container with
    | some items => if c.hasKeys container then return items.any (c.same v) else isAmong room v items
    | none => wrongType s!"argument of type '{c.typeName container}' is not iterable"

/-- Whether two values are equal; telling may go too deep. -/
def equalValues (room : Nat) (a b : Value) : Run Context Bool := do
  let c ← Run.get
  match if room = 0 then none else c.equal? room a b with
  | some answer => return answer
  | none => Run.failure comparisonTooDeep

/-- Compare two values; looking into a value counts as a nested call. -/
def compareValues (room : Nat) (op : Comparison) (a b : Value) : Run Context Bool := do
  let c ← Run.get
  match op with
  | .equal => equalValues room a b
  | .unequal => return !(← equalValues room a b)
  | .isIn => contains room a b
  | .notIn => return !(← contains room a b)
  | op =>
    match c.order room a b with
    | .ok o => return op.holds o
    | .error none => Run.failure comparisonTooDeep
    | .error (some (x, y)) =>
      wrongType
        s!"'{op.symbol}' not supported between instances of '{c.typeName x}' and '{c.typeName y}'"

/-- The first integer that does not fit a signed word of 64 bits. -/
def wordLimit : Int := 9223372036854775808

/-- Whether an integer fits a signed word of 64 bits. -/
def fitsWord (n : Int) : Bool := -wordLimit ≤ n && n < wordLimit

def repeated {α : Type} (count : Int) (items : List α) : Run Context (List α) :=
  if !fitsWord count then
    Run.failure (.raised .overflow "cannot fit 'int' into an index-sized integer")
  else if !fitsWord (count.toNat * items.length) then Run.failure (.raised .memory "")
  else if items.isEmpty then return []
  else return (List.replicate count.toNat items).flatten

/-- The members of a sequence of extension code, and how to make one of them again. -/
def sequence? (c : Context) (v : Value) : Option (List Value × (List Value → Run Context Value)) :=
  match v.points?, c.object? v with
  | some points, _ =>
    some (Value.each points, fun items => return .ofPoints (items.flatMap fun v => v.points?.getD []))
  | _, some (.list items) => some (items, fun items => allocate (.list items))
  | _, some (.tuple items) => some (items, fun items => allocate (.tuple items))
  | _, _ => none

def multiplySequence (c : Context) (items : List Value) (make : List Value → Run Context Value)
    (v : Value) : Run Context Value := do
  match v.int? with
  | some n => make (← repeated n items)
  | none => wrongType s!"can't multiply sequence by non-int of type '{c.typeName v}'"

/-- Calculate with two values. A quotient is no integer, and there are no other numbers. -/
def calculate (op : Arithmetic) (a b : Value) : Run Context Value := do
  let c ← Run.get
  let unsupported : Run Context Value :=
    wrongType s!"unsupported operand type(s) for {op.symbol}: '{c.typeName a}' and '{c.typeName b}'"
  match op, a.int?, b.int? with
  | .add, some m, some n => return .int (m + n)
  | .subtract, some m, some n => return .int (m - n)
  | .multiply, some m, some n => return .int (m * n)
  | .divide, some m, some n =>
    if n = 0 then Run.failure .zeroDivision else Run.failure (.unsupported s!"{m} / {n}")
  | .multiply, _, _ =>
    match sequence? c a, sequence? c b with
    | some (items, make), _ => multiplySequence c items make b
    | none, some (items, make) => multiplySequence c items make a
    | none, none => unsupported
  | .add, _, _ =>
    match a.points?, b.points?, c.object? a, c.object? b with
    | some s, some t, _, _ => return .ofPoints (s ++ t)
    | some _, none, _, _ => wrongType s!"can only concatenate str (not \"{c.typeName b}\") to str"
    | _, _, some (.list xs), some (.list ys) => allocate (.list (xs ++ ys))
    | _, _, some (.list _), _ => wrongType s!"can only concatenate list (not \"{c.typeName b}\") to list"
    | _, _, some (.tuple xs), some (.tuple ys) => allocate (.tuple (xs ++ ys))
    | _, _, some (.tuple _), _ =>
      wrongType s!"can only concatenate tuple (not \"{c.typeName b}\") to tuple"
    | _, _, _, _ => unsupported
  | _, _, _ => unsupported

def opposite (v : Value) : Run Context Value := do
  match v.int? with
  | some n => return .int (-n)
  | none => wrongType s!"bad operand type for unary -: '{(← Run.get).typeName v}'"

/-! ### Positions and members -/

/-- A position in a sequence; negative ones count from the end. -/
def position? (length : Nat) (n : Int) : Option Nat :=
  let k := if n < 0 then n + length else n
  if 0 ≤ k && k < length then some k.toNat else none

def memberAt (kind : String) (items : List Value) (position : Value) : Run Context Value := do
  match position.int? with
  | none =>
    let other := (← Run.get).typeName position
    if kind = "string" then wrongType s!"string indices must be integers, not '{other}'"
    else wrongType s!"{kind} indices must be integers or slices, not {other}"
  | some n =>
    if !fitsWord n then Run.failure .positionTooBig
    else
      match (position? items.length n).bind (items[·]?) with
      | some v => return v
      | none => Run.failure (.outOfRange kind)

/-- The value under a key of a table in a cell, which must be there. -/
def keyed (address : Nat) (key : Value) : Run Context Value := do
  match ← lookUpKey address key with
  | some v => return v
  | none => Run.failure (.missingKey ((← Run.get).repr key))

/-- The value at a position or under a key. -/
def index (room : Nat) (v position : Value) : Run Context Value := do
  needRoomFor room 1 v
  let c ← Run.get
  match v, c.object? v with
  | .text t, _ => memberAt "string" (Value.each (t.map .char)) position
  | .torn points, _ => memberAt "string" (Value.each points) position
  | .builtin .filters, _ => keyed c.registered position
  | _, some (.list items) => memberAt "list" items position
  | _, some (.tuple items) => memberAt "tuple" items position
  | .cell address, some (.dict _) => keyed address position
  | v, _ =>
    match v.typeCalled? with
    | some name => wrongType s!"type '{name}' is not subscriptable"
    | none => wrongType s!"'{c.typeName v}' object is not subscriptable"

def register (name filter : Value) : Run Context Unit := do
  setKey (← Run.get).registered name filter

/-- Set the value at a position or under a key. -/
def setIndex (room : Nat) (v position value : Value) : Run Context Unit := do
  needRoomFor room 2 v
  let c ← Run.get
  match v, c.object? v with
  | .builtin .filters, _ => register position value
  | .cell address, some (.list items) =>
    match position.int? with
    | none => wrongType s!"list indices must be integers or slices, not {c.typeName position}"
    | some n =>
      if !fitsWord n then Run.failure .positionTooBig
      else
        match position? items.length n with
        | some k => replace address (.list (items.set k value))
        | none => Run.failure (.outOfRange "list assignment")
  | .cell address, some (.dict _) => setKey address position value
  | _, _ => wrongType s!"'{c.typeName v}' object does not support item assignment"

/-- The member with a name, if a value of this kind has it. -/
def member? (c : Context) (v : Value) (name : Text) : Option Value :=
  let bound (m : Member) : Option Value := some (.bound v m)
  match v, c.object? v, str name with
  | .text _, _, "upper" | .torn _, _, "upper" | .builtin .str, _, "upper" => bound .upper
  | .text _, _, "lower" | .torn _, _, "lower" | .builtin .str, _, "lower" => bound .lower
  | .text _, _, "strip" | .torn _, _, "strip" | .builtin .str, _, "strip" => bound .strip
  | .builtin .filters, _, "register" => bound .register
  | .builtin .filters, _, "names" => bound .names
  | .builtin .filters, _, "get" => bound .get
  | .builtin .filters, _, "filters" => some (.cell c.registered)
  | .builtin .context, _, "blocks" => some (.cell c.injected)
  | .builtin .context, _, "filters" => some (.builtin .filters)
  | _, some (.list _), "append" => bound .append
  | _, some (.dict _), "get" => bound .get
  | _, some (.madeFilter _ code), "code" => some code
  | _, _, _ => none

/-- The failure of a member that a value does not have, or has without a meaning here. -/
def memberFailure (c : Context) (v : Value) (name : Text) : Failure :=
  let typeName := v.typeCalled?.getD (c.typeName v)
  if isHidden name || (uncoveredMembers typeName).contains (str name) then
    .unsupported s!"{typeName}.{str name}"
  else c.lacks v name

/-! ### Calls of what is always there -/

/-- The message for parameters that got no argument. -/
def missingArguments (name : Text) (missing : List Text) : String :=
  let names := missing.map fun n => s!"'{str n}'"
  let listed := match names.reverse with
    | [] => ""
    | [n] => n
    | [n, m] => m ++ " and " ++ n
    | n :: rest => ", ".intercalate rest.reverse ++ ", and " ++ n
  let plural := if missing.length = 1 then "" else "s"
  s!"{str name}() missing {missing.length} required positional argument{plural}: {listed}"

/-- The message for arguments that have no parameter. -/
def surplusArguments (name : Text) (wanted given : Nat) : String :=
  let plural := if wanted = 1 then "" else "s"
  let verb := if given = 1 then "was" else "were"
  s!"{str name}() takes {wanted} positional argument{plural} but {given} {verb} given"

/-- Make sure that a function gets an argument for every parameter, and no more. The first `own`
parameters are not among those named, and always get theirs. -/
def needArguments (name : Text) (own : Nat) (parameters : List Text) (given : Nat) : Run Context Unit :=
  if parameters.length < given then
    wrongType (surplusArguments name (parameters.length + own) (given + own))
  else if given < parameters.length then
    wrongType (missingArguments name (parameters.drop given))
  else return ()

def lengthOf (room : Nat) (v : Value) : Run Context Value := do
  needRoomFor room 1 v
  let c ← Run.get
  match c.members? v with
  | some items => return .int items.length
  | none => wrongType s!"object of type '{c.typeName v}' has no len()"

def callOnText (m : Member) (t : Text) (arguments : List Value) : Run Context Value :=
  match m, arguments with
  | .upper, [] => return .text (Text.upper t)
  | .lower, [] => return .text (Text.lower t)
  | .strip, [] | .strip, [.none] => return .text (Text.strip t)
  | .strip, [.text chars] => return .text (trimEnd chars.contains (trimStart chars.contains t))
  | .strip, [.torn points] =>
    let isListed (c : Char) : Bool := points.contains (.char c)
    return .text (trimEnd isListed (trimStart isListed t))
  | .strip, [_] => wrongType "strip arg must be None or str"
  | .strip, vs => wrongType s!"strip expected at most 1 argument, got {vs.length}"
  | m, vs => wrongType s!"str.{m.called}() takes no arguments ({vs.length} given)"

/-- Call a member of the type of texts on a value. -/
def callOnAny (m : Member) : List Value → Run Context Value
  | [] => wrongType s!"unbound method str.{m.called}() needs an argument"
  | .text t :: rest => callOnText m t rest
  | .torn _ :: _ => Run.failure (BuiltinFilter.onTorn s!"str.{m.called}()")
  | v :: _ => do
    let other := (← Run.get).typeName v
    wrongType s!"descriptor '{m.called}' for 'str' objects doesn't apply to a '{other}' object"

/-- Call a member of a table in a cell: the value of a key, or of another one if it is missing. -/
def callGet (address : Nat) : List Value → Run Context Value
  | [] => wrongType "get expected at least 1 argument, got 0"
  | [key] => do return (← lookUpKey address key).getD .none
  | [key, other] => do return (← lookUpKey address key).getD other
  | vs => wrongType s!"get expected at most 2 arguments, got {vs.length}"

def callOnFilters (m : Member) (arguments : List Value) : Run Context Value := do
  let c ← Run.get
  let need (parameters : List String) : Run Context Unit :=
    needArguments ("FilterRegistry." ++ m.called).toList 1 (parameters.map String.toList) arguments.length
  match m, arguments with
  | .register, [name, filter] =>
    register name filter
    return .none
  | .register, _ =>
    need ["name", "filter"]
    return .none
  | .get, [key] => return (← lookUpKey c.registered key).getD .none
  | .get, _ =>
    need ["name"]
    return .none
  | _, [] => allocate (.list (c.filterEntries.map Prod.fst))
  | _, _ =>
    need []
    return .none

/-- Call a member of a value; `room` is how many calls may nest from here. -/
def callMember (room : Nat) (receiver : Value) (m : Member) (arguments : List Value) :
    Run Context Value := do
  let c ← Run.get
  match receiver, c.object? receiver with
  | .builtin .filters, _ =>
    needRoom room 1
    callOnFilters m arguments
  | .cell address, some (.list items) =>
    match arguments with
    | [v] =>
      replace address (.list (items ++ [v]))
      return .none
    | vs => wrongType s!"list.append() takes exactly one argument ({vs.length} given)"
  | .cell address, _ => callGet address arguments
  | receiver, _ =>
    if room = 0 && (m = .upper || m = .lower) then Run.failure callTooDeep
    else
      match receiver with
      | .builtin .str => callOnAny m arguments
      | .text t => callOnText m t arguments
      | .torn _ => Run.failure (BuiltinFilter.onTorn s!"str.{m.called}()")
      | v => wrongType s!"'{c.typeName v}' object is not callable"

/-- Make a filter, which takes two nested calls. -/
def makeFilter (room : Nat) (perLine : Bool) (arguments : List Value) : Run Context Value := do
  let name := if perLine then "LineFilter" else "Filter"
  needArguments (name ++ ".__init__").toList 1 ["code".toList] arguments.length
  needRoom room 2
  allocate (.madeFilter perLine (arguments.headD .none))

/-- Call a value with a fixed name; `room` is how many calls may nest from here. -/
def callBuiltin (room : Nat) (b : Builtin) (arguments : List Value) : Run Context Value := do
  match b, arguments with
  | .len, [v] => lengthOf room v
  | .len, vs => wrongType s!"len() takes exactly one argument ({vs.length} given)"
  | .context, _ | .filters, _ => wrongType s!"'{(Value.builtin b).plainTypeName}' object is not callable"
  | b, arguments =>
    if room = 0 then Run.failure callTooDeep
    else
      match b with
      | .filterMaker perLine => makeFilter room perLine arguments
      | .failure kind => allocate (.failure kind arguments)
      | _ =>
        match arguments with
        | [] => return .text []
        | [v] => return .ofPoints ((← Run.get).shown v)
        | _ => Run.failure (.unsupported "str() of bytes")

/-- Make a table of keys and values in turn; a later key changes the value of an equal earlier one. -/
def makeDict (flat : List Value) : Run Context Value := do
  let c ← Run.get
  let rec go (entries : List (Value × Value)) : List Value → Run Context Value
    | key :: value :: rest => do
      needKey key
      go (c.setEntry entries key value) rest
    | _ => allocate (.dict entries)
  go [] flat

/-! ### Expressions -/

abbrev Caller := Value → List Value → Run Context Value

/-- What code runs with: its frame, the name of the function it stands in, the way of calling, and how
many calls may nest from here. -/
structure Scope where
  frame : Option Nat := none
  function : Option Text := none
  call : Caller
  room : Nat

/-- The full name of a function that is made here. -/
def Scope.nameFor (s : Scope) (name : Text) : Text :=
  match s.function with
  | none => name
  | some outer => outer ++ ".<locals>.".toList ++ name

mutual

/-- The value of an expression. -/
def eval (s : Scope) : Expr → Run Context Value
  | .none => pure .none
  | .bool b => pure (.bool b)
  | .int n => pure (.int n)
  | .text t => pure (.text t)
  | .torn points => pure (.torn points)
  | .name n => lookUp s.frame n
  | .list items => do allocate (.list (← evalAll s items))
  | .tuple items => do allocate (.tuple (← evalAll s items))
  | .dict entries => do makeDict (← evalAll s entries)
  | .not e => do
    return .bool (!(← truthOf s.room (← eval s e)))
  | .negate e => do opposite (← eval s e)
  | .and a b => do
    let v ← eval s a
    if ← truthOf s.room v then eval s b else return v
  | .or a b => do
    let v ← eval s a
    if ← truthOf s.room v then return v else eval s b
  | .compare first comparisons operands => do
    evalComparisons s (← eval s first) comparisons operands
  | .arithmetic op a b => do
    let v ← eval s a
    calculate op v (← eval s b)
  | .index e position => do
    let v ← eval s e
    index s.room v (← eval s position)
  | .member e name => do
    let v ← eval s e
    let c ← Run.get
    match member? c v name with
    | some m => return m
    | none => Run.failure (memberFailure c v name)
  | .call f arguments => do
    let callee ← eval s f
    s.call callee (← evalAll s arguments)
  | .lambda parameters body =>
    allocate (.function
      ⟨s.nameFor "<lambda>".toList, parameters, [.give (some body)], parameters, s.frame⟩)

/-- The values of expressions, in order. -/
def evalAll (s : Scope) : List Expr → Run Context (List Value)
  | [] => pure []
  | e :: rest => do
    let v ← eval s e
    return v :: (← evalAll s rest)

/-- A chain of comparisons; it ends at the first that does not hold. -/
def evalComparisons (s : Scope) : Value → List Comparison → List Expr → Run Context Value
  | left, ops, e :: rest =>
    match ops with
    | [] => pure (.bool true)
    | op :: ops => do
      let right ← eval s e
      let holds ← compareValues s.room op left right
      if holds && !ops.isEmpty then evalComparisons s right ops rest else return .bool holds
  | _, _, [] => pure (.bool true)

end

/-! ### Statements -/

def assign (s : Scope) (v : Value) : Target → Run Context Unit
  | .name n => bindName s.frame n v
  | .index e position => do
    let container ← eval s e
    setIndex s.room container (← eval s position) v

def raiseValue (v : Value) : Run Context Unit := do
  let c ← Run.get
  match v, c.object? v with
  | .builtin (.failure kind), _ => Run.failure (c.failureOf kind [])
  | _, some (.failure kind arguments) => Run.failure (c.failureOf kind arguments)
  | _, _ => wrongType "exceptions must derive from BaseException"

def boundNames (body : List Stmt) : List Text := body.flatMap Stmt.bound

/-- Run one statement: nothing, or the value it gives back. -/
def exec (s : Scope) : Stmt → Run Context (Option Value)
  | .expr e => do
    let _ ← eval s e
    return none
  | .assign targets e => do
    let v ← eval s e
    let _ ← targets.mapM (assign s v)
    return none
  | .pass => return none
  | .raise none => Run.failure (.raised .runtime "No active exception to reraise")
  | .raise (some e) => do
    raiseValue (← eval s e)
    return none
  | .give none => return some .none
  | .give (some e) => do return some (← eval s e)
  | .define name parameters body => do
    let f ← allocate (.function
      ⟨s.nameFor name, parameters, body, parameters ++ boundNames body, s.frame⟩)
    bindName s.frame name f
    return none

/-- Run statements up to the first that gives a value back. -/
def execAll (s : Scope) : List Stmt → Run Context (Option Value)
  | [] => return none
  | first :: rest => do
    match ← exec s first with
    | some v => return some v
    | none => execAll s rest

/-- Call a function: bind its parameters in a new frame and run its statements. -/
def enter (call : Caller) (room : Nat) (f : Function) (arguments : List Value) :
    Run Context Value := do
  let frame ← allocate (.frame (f.parameters.zip arguments) f.locals f.scope)
  match frame with
  | .cell address => return (← execAll ⟨some address, some f.name, call, room⟩ f.body).getD .none
  | _ => return .none

/-- Call a value; calls may nest as deep as the bound says. -/
def callWithin : Nat → Caller
  | room, v, arguments => do
    let c ← Run.get
    match v, c.object? v with
    | .builtin b, _ => callBuiltin room b arguments
    | .bound receiver m, _ => callMember room receiver m arguments
    | _, some (.function f) =>
      needArguments f.name 0 f.parameters arguments.length
      match room with
      | 0 => Run.failure (.recursion "")
      | deeper + 1 => enter (callWithin deeper) deeper f arguments
    | _, _ => wrongType s!"'{c.typeName v}' object is not callable"

/-- Call a value from outside all functions. -/
def call : Caller := fun v arguments => do
  callWithin (← Run.get).calls v arguments

def globalScope (room : Nat) : Scope := { call := callWithin room, room }

end Literate.Script
