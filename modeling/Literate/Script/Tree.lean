import Literate.Script.Token

/-! # Trees of extension code

What reading finds in the tokens of a program: tokens, runs of trees, and nodes with a shape. A tree
knows the line it starts on, and what it is called when something is assigned to it that cannot be. -/

namespace Literate.Script

/-- What a node of a tree is. -/
inductive Shape where
  | texts
  | tuple
  | list
  | set
  | dict
  | pair
  | call
  | member
  | index
  | slice
  | starred
  | choice
  | function
  | named
  | either
  | both
  | negation
  | comparison
  | binary
  | unary
  | await
  | yield
  | yieldFrom
  | listComprehension
  | setComprehension
  | dictComprehension
  | generator
  | clause
  | asyncClause
  | arguments
  | keywords
  | keyword
  | doubleStarred
  | parameters
  | slash
  | star
  | doubleStar
  | typed
  | defaulted
  | line
  | evaluate
  | assign
  | augment
  | annotate
  | annotatePart
  | give
  | raise
  | pass
  | leave
  | delete
  | assert
  | global
  | nonlocal
  | importing
  | importingFrom
  | renamed
  | dotted
  | define
  | asyncDefine
  | classBody
  | decorated
  | condition
  | whileLoop
  | forLoop
  | asyncFor
  | otherwise
  | within
  | asyncWithin
  | withinAs
  | attempt
  | attemptGroup
  | handler
  | final
  | matching
  | caseBlock
  | capture
  | wildcard
  | sequencePattern
  | starPattern
  | mappingPattern
  | entryPattern
  | restPattern
  | classPattern
  | keywordPattern
  | asPattern
  | orPattern
  | other
deriving DecidableEq

/-- A part of a program. -/
inductive Tree where
  | token (t : Token)
  /-- The trees of a repeated or an optional part. -/
  | run (trees : List Tree)
  | node (shape : Shape) (line : Nat) (parts : List Tree)

def Token.isWord (t : Token) (word : String) : Bool :=
  match t.kind with
  | .keyword | .symbol => t.written = word.toList
  | _ => false

/-- Whether a token is a name that is written in a certain way. -/
def Token.isName (t : Token) (name : String) : Bool :=
  match t.kind with
  | .name => t.written = name.toList
  | _ => false

namespace Tree

def line : Tree → Nat
  | token t => t.line
  | run (first :: _) => first.line
  | run [] => 0
  | node _ line _ => line

mutual

/-- The trees of a run, with runs inside it taken apart. -/
def items : Tree → List Tree
  | run trees => itemsIn trees
  | token t => [token t]
  | node shape line parts => [node shape line parts]

/-- The trees of several runs. -/
def itemsIn : List Tree → List Tree
  | [] => []
  | tree :: rest => tree.items ++ itemsIn rest

end

/-- Whether a tree is a name that is written in a certain way. -/
def isName (name : String) : Tree → Bool
  | token t => t.isName name
  | _ => false

/-- Whether a text has a mark before its quote, such as `b` or `f`. -/
def hasMark (mark : Char) : Tree → Bool
  | token t => (t.written.takeWhile Char.isAlpha).any fun c => c.toLower = mark
  | _ => false

def called : Tree → String
  | token t =>
    match t.kind with
    | .name => "name"
    | .keyword => Text.str t.written
    | .symbol => "ellipsis"
    | _ => "literal"
  | run _ => "expression"
  | node shape _ parts =>
    match shape with
    | .texts =>
      if parts.head?.any fun written => written.items.any (hasMark 'f') then "f-string expression"
      else "literal"
    | .tuple => "tuple"
    | .list => "list"
    | .set => "set display"
    | .dict => "dict literal"
    | .call => "function call"
    | .member => "attribute"
    | .index => "subscript"
    | .starred => "starred"
    | .choice => "conditional expression"
    | .function => "lambda"
    | .named => "named expression"
    | .comparison => "comparison"
    | .await => "await expression"
    | .yield | .yieldFrom => "yield expression"
    | .listComprehension => "list comprehension"
    | .setComprehension => "set comprehension"
    | .dictComprehension => "dict comprehension"
    | .generator => "generator expression"
    | _ => "expression"

end Tree

/-- The symbols that only divide the parts of a tree. -/
def dividers : List String := [",", ":", "(", ")", "[", "]", "\x7b", "\x7d"]

namespace Tree

/-- The parts of a tree that are not dividers, with runs taken apart. -/
def members (parts : List Tree) : List Tree :=
  (itemsIn parts).filter fun tree =>
    match tree with
    | token t => !dividers.any t.isWord
    | _ => true

def written? : Tree → Option String
  | token t => some (Text.str t.written)
  | _ => none

def isSymbol (symbol : String) : Tree → Bool
  | token t => t.isWord symbol
  | _ => false

end Tree

/-- What is done to a target. -/
inductive Aim where
  | assign
  | loop
  | delete
deriving DecidableEq

mutual

/-- The first part of a tree that cannot be a target. -/
def Tree.notTarget? (aim : Aim) : Tree → Option Tree
  | .token t =>
    match t.kind with
    | .name => none
    | _ => some (.token t)
  | .run trees => Tree.firstNotTarget? aim trees
  | .node shape line parts =>
    match shape with
    | .list | .tuple | .arguments => Tree.firstNotTarget? aim parts
    | .starred =>
      if aim = .delete then some (.node shape line parts) else Tree.firstNotTarget? aim parts
    | .comparison =>
      if aim ≠ .loop then some (.node shape line parts)
      else if Tree.comparesIn parts then Tree.headNotTarget? aim parts
      else none
    | .index | .member => none
    | _ => some (.node shape line parts)

/-- The first part of trees that cannot be a target, dividers apart. -/
def Tree.firstNotTarget? (aim : Aim) : List Tree → Option Tree
  | [] => none
  | tree :: rest =>
    if dividers.any tree.isSymbol || tree.isSymbol "*" then Tree.firstNotTarget? aim rest
    else (Tree.notTarget? aim tree).or (Tree.firstNotTarget? aim rest)

/-- The part of the first tree that cannot be a target. -/
def Tree.headNotTarget? (aim : Aim) : List Tree → Option Tree
  | [] => none
  | tree :: _ => Tree.notTarget? aim tree

/-- Whether the first of the comparisons in a node is a membership. -/
def Tree.comparesIn : List Tree → Bool
  | [_, .run (.node _ _ (op :: _) :: _)] => op.isSymbol "in"
  | _ => false

end

end Literate.Script
