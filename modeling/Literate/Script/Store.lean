import Literate.Filter
import Literate.Script.Program
import Literate.Table

/-! # The store of extension code

Lists, tables, functions and filters live in cells of a store, so that two names can share one of them.
A context is the store together with the global names, the cells of the table of filters and of the
table of blocks that extension code injects, and a bound on calls. Values are compared and shown by
looking into the store; the number of cells bounds how deep that has to go. -/

namespace Literate.Script

open Text

/-- A function: its name with those of the functions around it, its parameters, its statements, the
names they bind, and the frame it was made in. -/
structure Function where
  name : Text
  parameters : List Text
  body : List Stmt
  locals : List Text
  scope : Option Nat

/-- What a cell holds. -/
inductive Object where
  | list (items : List Value)
  | tuple (items : List Value)
  | dict (entries : List (Value × Value))
  | function (f : Function)
  /-- The local names of a call, the names it may bind, and the frame around it. -/
  | frame (names : Table Text Value) (locals : List Text) (outer : Option Nat)
  /-- A filter that is always there. -/
  | builtinFilter (f : BuiltinFilter)
  /-- A filter given by the surrounding program. -/
  | hostFilter (f : ValueView → List Value → Except Fault (List Value))
  /-- A filter made by extension code, for whole lists or for single lines. -/
  | madeFilter (perLine : Bool) (code : Value)
  /-- A failure that can be raised, with what it was made of. -/
  | failure (kind : FailureKind) (arguments : List Value)

/-- How deep calls may nest where nothing makes room for more. -/
def usualCalls : Nat := 988

/-- Everything extension code can see. -/
structure Context where
  store : Array Object := #[]
  globals : Table Text Value := []
  /-- The cell of the table of filters. -/
  registered : Nat := 0
  /-- The cell of the table of injected blocks. -/
  injected : Nat := 0
  /-- How deep calls may nest. -/
  calls : Nat := usualCalls

namespace Context

variable (c : Context)

/-- What a value refers to. -/
def object? : Value → Option Object
  | .cell address => c.store[address]?
  | _ => none

/-- How deep looking into the store can go. -/
def depth : Nat := c.store.size + 1

def entriesAt (address : Nat) : List (Value × Value) :=
  match c.store[address]? with
  | some (.dict entries) => entries
  | _ => []

def filterEntries : List (Value × Value) := c.entriesAt c.registered

def injectedEntries : List (Value × Value) := c.entriesAt c.injected

/-! ### Names and texts of values -/

def failureName : FailureKind → String
  | .value => "ValueError"
  | .key => "KeyError"
  | _ => "RuntimeError"

def typeName (v : Value) : String :=
  match c.object? v with
  | none => v.plainTypeName
  | some (.list _) => "list"
  | some (.tuple _) => "tuple"
  | some (.dict _) => "dict"
  | some (.function _) => "function"
  | some (.frame ..) => "frame"
  | some (.builtinFilter (.indentContinuation _)) => "Filter"
  | some (.builtinFilter _) => "LineFilter"
  | some (.hostFilter _) => "Filter"
  | some (.madeFilter perLine _) => if perLine then "LineFilter" else "Filter"
  | some (.failure kind _) => failureName kind

/-- The failure of a value that lacks a member. An operation of the table of filters has the members of
a function. -/
def lacks (v : Value) (member : Text) : Failure :=
  match v, v.typeCalled? with
  | _, some name => .noTypeMember name member
  | .bound (.builtin .filters) _, none => .noMember "function" member
  | v, none => .noMember (c.typeName v) member

/-- A value as it would be written. The cells on the way to it are not written again. -/
def written : Nat → List Nat → Value → Text
  | _, _, .none => "None".toList
  | _, _, .bool b => (if b then "True" else "False").toList
  | _, _, .int n => (toString n).toList
  | _, _, .text t => quoted t
  | _, _, .torn points => quotedPoints points
  | 0, _, _ => "...".toList
  | _, _, .builtin .len => "<built-in function len>".toList
  | _, _, .builtin .str => "<class 'str'>".toList
  | _, _, .builtin (.failure kind) => ("<class '" ++ failureName kind ++ "'>").toList
  | _, _, .bound (.builtin .str) m => ("<method '" ++ m.called ++ "' of 'str' objects>").toList
  | fuel + 1, path, v =>
    let address := match v with
      | .cell address => address
      | _ => 0
    let again := path.contains address
    let several (items : List Value) :=
      if again then "...".toList
      else joinWith ", ".toList (items.map (written fuel (address :: path)))
    match c.object? v with
    | some (.list items) => '[' :: several items ++ [']']
    | some (.tuple items) =>
      '(' :: several items ++ if items.length = 1 && !again then ",)".toList else [')']
    | some (.dict entries) =>
      let one := written fuel (address :: path)
      let inner := if again then "...".toList
        else joinWith ", ".toList (entries.map fun (key, value) => one key ++ ": ".toList ++ one value)
      '\x7b' :: inner ++ ['\x7d']
    | some (.failure kind arguments) =>
      (failureName kind).toList ++ '(' :: several arguments ++ [')']
    | _ => '<' :: (c.typeName v).toList ++ " object>".toList

/-- A value as it would be written. -/
def repr (v : Value) : Text := c.written c.depth [] v

/-- The text of a failure: nothing, what its only argument shows, or its arguments as written. The text
of a missing key is the key as written. `shown` gives what a value shows. -/
def failureText (shown : Value → List Point) (kind : FailureKind) : List Value → List Point
  | [] => []
  | [v] => if kind = .key then (c.repr v).map .char else shown v
  | vs => ('(' :: joinWith ", ".toList (vs.map c.repr) ++ [')']).map .char

/-- What a value shows inside a text, down to a depth. -/
def shownWithin : Nat → Value → List Point
  | _, .text t => t.map .char
  | _, .torn points => points
  | 0, v => (c.repr v).map .char
  | fuel + 1, v =>
    match c.object? v with
    | some (.failure kind arguments) => c.failureText (shownWithin fuel) kind arguments
    | _ => (c.repr v).map .char

/-- A value as it stands inside a text: a text as it is, a failure as its text, anything else as
written. -/
def shown (v : Value) : List Point := c.shownWithin c.depth v

/-- The failure that a kind of failures and its arguments stand for. -/
def failureOf (kind : FailureKind) (arguments : List Value) : Failure :=
  match Point.text? (c.failureText c.shown kind arguments) with
  | some t => .raised kind (str t)
  | none => BuiltinFilter.onTorn "the message"

/-! ### Truth and comparison -/

/-- Whether a value counts as true. -/
def truth (v : Value) : Bool :=
  match v with
  | .none => false
  | .bool b => b
  | .int n => n != 0
  | .text t => !t.isEmpty
  | .builtin .filters => !c.filterEntries.isEmpty
  | v =>
    match c.object? v with
    | some (.list items) | some (.tuple items) => !items.isEmpty
    | some (.dict entries) => !entries.isEmpty
    | _ => true

/-- Whether two lists are equal member by member, if that can be told. -/
def equalAll? (equal? : Value → Value → Option Bool) : List Value → List Value → Option Bool
  | [], [] => some true
  | x :: xs, y :: ys =>
    match equal? x y with
    | some true => equalAll? equal? xs ys
    | other => other
  | _, _ => some false

/-- Whether the entries of a table are those of another, if that can be told. -/
def equalEntries? (equal? : Value → Value → Option Bool) (ys : List (Value × Value)) :
    List (Value × Value) → Option Bool
  | [] => some true
  | (key, x) :: xs =>
    match ys.find? fun entry => (equal? entry.1 key).getD false with
    | none => some false
    | some (_, y) =>
      match equal? x y with
      | some true => equalEntries? equal? ys xs
      | other => other

/-- Whether two values are equal, unless that goes too deep; truth values equal integers. -/
def equal? : Nat → Value → Value → Option Bool
  | 0, a, b => if a == b then some true else none
  | fuel + 1, a, b =>
    match a.int?, b.int? with
    | some m, some n => some (m == n)
    | _, _ =>
      if a == b then some true
      else
        match c.object? a, c.object? b with
        | some (.list xs), some (.list ys) | some (.tuple xs), some (.tuple ys) =>
          if xs.length = ys.length then equalAll? (equal? fuel) xs ys else some false
        | some (.dict xs), some (.dict ys) =>
          if xs.length = ys.length then equalEntries? (equal? fuel) ys xs else some false
        | _, _ => some false

/-- Whether two values are equal. -/
def same (a b : Value) : Bool := (c.equal? c.depth a b).getD false

/-- The order of two texts, by code points. -/
def comparePoints : List Point → List Point → Ordering
  | [], [] => .eq
  | [], _ :: _ => .lt
  | _ :: _, [] => .gt
  | x :: xs, y :: ys =>
    if x.code < y.code then .lt else if y.code < x.code then .gt else comparePoints xs ys

/-- The first members in which two lists differ; nothing inside if telling goes too deep. -/
def difference? (equal? : Value → Value → Option Bool) :
    List Value → List Value → Option (Option (Value × Value))
  | x :: xs, y :: ys =>
    match equal? x y with
    | some true => difference? equal? xs ys
    | some false => some (some (x, y))
    | none => some none
  | _, _ => none

/-- The order of two values; or two values inside them that have none, or nothing if telling goes too
deep. Lists are ordered by the first members in which they differ. -/
def order : Nat → Value → Value → Except (Option (Value × Value)) Ordering
  | 0, _, _ => .error none
  | fuel + 1, a, b =>
    match a.int?, b.int? with
    | some m, some n => .ok (compare m n)
    | _, _ =>
      match a.points?, b.points? with
      | some s, some t => .ok (comparePoints s t)
      | _, _ =>
        match c.object? a, c.object? b with
        | some (.list xs), some (.list ys) | some (.tuple xs), some (.tuple ys) =>
          match difference? (c.equal? fuel) xs ys with
          | some (some (x, y)) => order fuel x y
          | some none => .error none
          | none => .ok (compare xs.length ys.length)
        | _, _ => .error (some (a, b))

/-! ### Sequences and tables -/

/-- The members of a value that can be gone through. -/
def members? (v : Value) : Option (List Value) :=
  match v, v.points? with
  | _, some points => some (Value.each points)
  | .builtin .filters, none => some (c.filterEntries.map Prod.fst)
  | v, none =>
    match c.object? v with
    | some (.list items) | some (.tuple items) => some items
    | some (.dict entries) => some (entries.map Prod.fst)
    | _ => none

/-- How filters see values. -/
def view : ValueView := ⟨c.typeName, c.shown, c.members?⟩

/-- The part of a value that keeps it from being a key: a list or a table, also inside a tuple. -/
def notKey? : Nat → Value → Option Value
  | 0, _ => none
  | fuel + 1, v =>
    match c.object? v with
    | some (.list _) | some (.dict _) => some v
    | some (.tuple items) => items.findSome? (notKey? fuel)
    | _ => none

/-- Whether a value holds its members under keys. -/
def hasKeys (v : Value) : Bool :=
  match v, c.object? v with
  | .builtin .filters, _ => true
  | _, some (.dict _) => true
  | _, _ => false

/-- The value of a key in a table. -/
def entry? (entries : List (Value × Value)) (key : Value) : Option Value :=
  (entries.find? fun entry => c.same entry.1 key).map Prod.snd

/-- A table with an entry set, in the place of the old one or at the end. -/
def setEntry (entries : List (Value × Value)) (key value : Value) : List (Value × Value) :=
  if entries.any fun entry => c.same entry.1 key then
    entries.map fun entry => if c.same entry.1 key then (entry.1, value) else entry
  else entries ++ [(key, value)]

end Context

/-! ### Actions on the store -/

/-- Put an object into a new cell. -/
def allocate (object : Object) : Run Context Value := do
  let c ← Run.get
  Run.set { c with store := c.store.push object }
  return .cell c.store.size

/-- Change what a cell holds. -/
def replace (address : Nat) (object : Object) : Run Context Unit :=
  Run.modify fun c => { c with store := c.store.setIfInBounds address object }

def wrongType {α : Type} (message : String) : Run Context α := Run.failure (.wrongType message)

/-- The members of a value that can be gone through. -/
def iterate (v : Value) : Run Context (List Value) := do
  let c ← Run.get
  match c.members? v with
  | some items => return items
  | none => wrongType s!"'{c.typeName v}' object is not iterable"

/-- Make sure that a value can be a key. -/
def needKey (v : Value) : Run Context Unit := do
  let c ← Run.get
  match c.notKey? c.depth v with
  | some part => wrongType s!"unhashable type: '{c.typeName part}'"
  | none => return ()

/-- The value under a key of a table in a cell. -/
def lookUpKey (address : Nat) (key : Value) : Run Context (Option Value) := do
  needKey key
  let c ← Run.get
  return c.entry? (c.entriesAt address) key

/-- Set the value under a key of a table in a cell. -/
def setKey (address : Nat) (key value : Value) : Run Context Unit := do
  needKey key
  let c ← Run.get
  replace address (.dict (c.setEntry (c.entriesAt address) key value))

end Literate.Script
