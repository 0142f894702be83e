import Literate.Script.Literal
import Literate.Script.Program
import Literate.Script.Read
import Literate.Script.View

/-! # From trees to programs

The tree of a program is taken apart into the statements and expressions that can be run. The grammar
covers the whole language, but only a part of it can be run: names, `None`, truth values, decimal
integers and texts; lists, tuples and tables; `not`, `and`, `or` and comparisons; `+`, `-`, `*` and `/`
with two operands and `-` with one; positions, members, calls without keywords and `lambda`; and the
statements that evaluate, assign to names and positions, raise, return, pass and define functions whose
parameters are names. Every other program ends in a failure that says so (`unsupported`), as do
operations on values that have no counterpart among values. -/

namespace Literate.Script

open Text

/-! ### Nesting -/

mutual

/-- How deep the nodes of a tree are nested. -/
def Tree.depth : Tree → Nat
  | .token _ => 0
  | .run trees => Tree.depthOfAll trees
  | .node _ _ parts => Tree.depthOfAll parts + 1

/-- How deep the nodes of the deepest tree are nested. -/
def Tree.depthOfAll : List Tree → Nat
  | [] => 0
  | tree :: rest => max tree.depth (Tree.depthOfAll rest)

end

/-- A program must not be nested too deep; `room` is how many calls may nest where it runs. -/
def Tree.checkNesting (room : Nat) (tree : Tree) : Except ReadError Unit :=
  if 3 * room ≤ tree.depth then .error ⟨"", 0, .nesting⟩ else .ok ()

/-! ### Expressions -/

/-- The error for what the language has and cannot be run. -/
def unsupported (tree : Tree) : ReadError := ⟨"a part of the language", tree.line, .unsupported⟩

def comparison? : List Tree → Option Comparison
  | [op] =>
    if op.isSymbol "==" then some .equal
    else if op.isSymbol "!=" then some .unequal
    else if op.isSymbol "<" then some .less
    else if op.isSymbol "<=" then some .lessEqual
    else if op.isSymbol ">" then some .greater
    else if op.isSymbol ">=" then some .greaterEqual
    else if op.isSymbol "in" then some .isIn
    else none
  | [op, _] => if op.isSymbol "not" then some .notIn else none
  | _ => none

/-- The operation that a symbol stands for. -/
def arithmetic? (op : Tree) : Option Arithmetic :=
  if op.isSymbol "+" then some .add
  else if op.isSymbol "-" then some .subtract
  else if op.isSymbol "*" then some .multiply
  else if op.isSymbol "/" then some .divide
  else none

def tokenExpr (t : Token) : Except ReadError Expr :=
  match t.kind with
  | .name => .ok (.name (normalForm t.written))
  | .number => (decimalValue? t.written).elim (.error (unsupported (.token t))) fun n => .ok (.int n)
  | _ =>
    if t.isWord "None" then .ok .none
    else if t.isWord "True" then .ok (.bool true)
    else if t.isWord "False" then .ok (.bool false)
    else .error (unsupported (.token t))

/-- The code points that texts in a row stand for. -/
def textsValue (tree : Tree) (texts : List Tree) : Except ReadError (List Point) :=
  texts.foldlM
    (fun value part =>
      match part with
      | .token t =>
        match textValue t.written with
        | .ok (some more) => .ok (value ++ more)
        | _ => .error (unsupported tree)
      | _ => .error (unsupported tree))
    []

def Expr.ofPoints (points : List Point) : Expr :=
  match Point.text? points with
  | some t => .text t
  | Option.none => .torn points

/-- The names of parameters, which must have nothing else. -/
def parameterNames (parameters : List Tree) : Except ReadError (List Text) :=
  parameters.flatMapM fun tree =>
    match tree with
    | .node .parameters _ parts =>
      (Tree.itemsIn parts).mapM fun part => part.name?.elim (.error (unsupported tree)) .ok
    | _ => .error (unsupported tree)

/-- The expression that a tree stands for. -/
def expr : Nat → Tree → Except ReadError Expr
  | 0, tree => .error (unsupported tree)
  | _, .token t => tokenExpr t
  | _, .run trees => .error (unsupported (.run trees))
  | fuel + 1, .node shape line parts => do
    let tree := Tree.node shape line parts
    match shape, parts with
    | .texts, written :: _ => return .ofPoints (← textsValue tree written.items)
    | .tuple, parts => return .tuple (← (Tree.elements parts).mapM (expr fuel))
    | .list, parts => return .list (← (Tree.elements parts).mapM (expr fuel))
    | .dict, parts =>
      return .dict (← (Tree.elements parts).flatMapM fun part =>
        match part with
        | .node .pair _ [key, _, value] => do return [← expr fuel key, ← expr fuel value]
        | part => .error (unsupported part))
    | .negation, [_, e] => return .not (← expr fuel e)
    | .unary, [op, e] =>
      if op.isSymbol "-" then return .negate (← expr fuel e) else .error (unsupported tree)
    | .either, [first, .run others] =>
      (← others.mapM (expr fuel)).foldl .or (← expr fuel first) |> pure
    | .both, [first, .run others] =>
      (← others.mapM (expr fuel)).foldl .and (← expr fuel first) |> pure
    | .comparison, [first, .run pairs] =>
      let found ← pairs.mapM fun part =>
        match part with
        | .node .pair _ trees =>
          match comparison? trees.dropLast, trees.getLast? with
          | some op, some operand => do return (op, ← expr fuel operand)
          | _, _ => .error (unsupported tree)
        | part => .error (unsupported part)
      return .compare (← expr fuel first) (found.map (·.1)) (found.map (·.2))
    | .binary, [a, op, b] =>
      match arithmetic? op with
      | some op => return .arithmetic op (← expr fuel a) (← expr fuel b)
      | none => .error (unsupported tree)
    | .index, [e, _, position, _] => return .index (← expr fuel e) (← expr fuel position)
    | .member, [e, _, name] =>
      match name.name? with
      | some name => return .member (← expr fuel e) name
      | none => .error (unsupported tree)
    | .call, [f, _, .run found, _] =>
      return .call (← expr fuel f) (← (Tree.elements found).mapM (expr fuel))
    | .function, [_, .run found, _, body] =>
      return .lambda (← parameterNames found) (← expr fuel body)
    | _, _ => .error (unsupported tree)

/-! ### Statements -/

def target (fuel : Nat) (tree : Tree) : Except ReadError Target := do
  match ← expr fuel tree with
  | .name n => return .name n
  | .index e position => return .index e position
  | _ => .error (unsupported tree)

/-- The statements that a tree stands for. -/
def stmts : Nat → Tree → Except ReadError (List Stmt)
  | 0, tree => .error (unsupported tree)
  | _, .token _ => .ok []
  | fuel + 1, .run trees => trees.flatMapM (stmts fuel)
  | fuel + 1, .node shape line parts => do
    let tree := Tree.node shape line parts
    match shape, parts with
    | .line, parts => parts.flatMapM (stmts fuel)
    | .evaluate, [e] => return [.expr (← expr fuel e)]
    | .assign, [.run targets, value] =>
      return [.assign (← targets.mapM (target fuel)) (← expr fuel value)]
    | .give, [_, .run found] => return [.give (← found.mapM (expr fuel)).head?]
    | .raise, [_] => return [.raise none]
    | .raise, [_, e, .run []] => return [.raise (some (← expr fuel e))]
    | .pass, _ => return [.pass]
    | .define, [_, name, _, .run parameters, _, .run [], _, body] =>
      match name.name? with
      | some name => return [.define name (← parameterNames parameters) (← stmts fuel body)]
      | none => .error (unsupported tree)
    | _, _ => .error (unsupported tree)

end Literate.Script
