import Literate.Text.Point

/-! # Programs of extension code

The language of conditions and extension blocks: expressions over texts, integers, truth values, lists
and tables, and statements that bind names, set entries, raise failures and define functions. -/

namespace Literate.Script

/-- The comparisons. -/
inductive Comparison where
  | equal
  | unequal
  | less
  | lessEqual
  | greater
  | greaterEqual
  | isIn
  | notIn
deriving DecidableEq, Repr

/-- The operations of arithmetic. -/
inductive Arithmetic where
  | add
  | subtract
  | multiply
  | divide
deriving DecidableEq, Repr

/-- An expression. -/
inductive Expr where
  | none
  | bool (b : Bool)
  | int (n : Int)
  | text (t : Text)
  /-- Code points that are no text. -/
  | torn (points : List Point)
  | name (n : Text)
  | list (items : List Expr)
  | tuple (items : List Expr)
  /-- A table: keys and values in turn. -/
  | dict (entries : List Expr)
  | not (e : Expr)
  | negate (e : Expr)
  | and (a b : Expr)
  | or (a b : Expr)
  /-- A chain of comparisons, each with its right operand. -/
  | compare (first : Expr) (comparisons : List Comparison) (operands : List Expr)
  | arithmetic (op : Arithmetic) (a b : Expr)
  | index (e position : Expr)
  | member (e : Expr) (name : Text)
  | call (f : Expr) (arguments : List Expr)
  | lambda (parameters : List Text) (body : Expr)

/-- What can be assigned to. -/
inductive Target where
  | name (n : Text)
  | index (e position : Expr)

/-- A statement. -/
inductive Stmt where
  | expr (e : Expr)
  | assign (targets : List Target) (value : Expr)
  | pass
  | raise (e : Option Expr)
  | give (e : Option Expr)
  | define (name : Text) (parameters : List Text) (body : List Stmt)

/-- The names a statement binds. -/
def Stmt.bound : Stmt → List Text
  | assign targets _ =>
    targets.filterMap fun target =>
      match target with
      | .name n => some n
      | .index _ _ => Option.none
  | define name _ _ => [name]
  | _ => []

end Literate.Script
