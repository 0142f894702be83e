import Literate.Script.Check
import Literate.Script.Matcher
import Literate.Script.Parser
import Literate.Script.Scope

/-! # Reading extension code

`parseExpr` reads an expression that stands alone, `parseProgram` a program. The text is cut into tokens,
which are matched against the grammar; what the grammar cannot tell is checked on the tree, first the
names and then the places; at last the tree is taken apart into what can be run. -/

namespace Literate.Script

/-- Enough fuel to go through the tree of tokens. -/
def treeFuel (tokens : Array Token) : Nat := 40 * tokens.size + 40

/-- The tree of a text by a rule of the grammar, and the fuel to go through it; `room` is how many calls
may nest where it runs. -/
def readText (program : Bool) (r : Rule) (room : Nat) (t : Text) : Read (Tree × Nat) := do
  if t.elem '\x00' then Read.fail ⟨"source code string cannot contain null bytes", 0, .encoding⟩
  else
    let tokens := (tokenize program 0 t).toArray
    let tree ← readTokens tokens r
    Read.ofExcept (tree.checkNesting room)
    return (tree, treeFuel tokens)

/-- Check what the grammar cannot tell of a program. -/
def checkProgram (fuel : Nat) (tree : Tree) : Read Unit := do
  let statements := tree.statements
  let future ← Read.ofExcept (programFuture statements)
  Read.ofExcept (checkNames future.lazy (statements.forM (Naming.stmt fuel)))
  checkStmts fuel { lazy := future.lazy, futureLine := future.line } statements

/-- Check what the grammar cannot tell of an expression. -/
def checkAlone (fuel : Nat) (tree : Tree) : Read Unit := do
  Read.ofExcept (checkNames false (Naming.expr fuel false tree))
  checkExpr fuel {} .load false tree

/-- Read a program; `room` is how many calls may nest where it runs. -/
def parseProgram (room : Nat) (t : Text) : Read (List Stmt) := do
  let (tree, fuel) ← readText true .program room t
  checkProgram fuel tree
  Read.ofExcept (stmts fuel tree)

/-- Read an expression that stands alone. Spaces and tabs before it do not count. -/
def parseExpr (room : Nat) (t : Text) : Read Expr := do
  let (tree, fuel) ← readText false .alone room (t.dropWhile Text.isIndent)
  checkAlone fuel tree
  Read.ofExcept (expr fuel tree)

end Literate.Script
