import Literate.Script.Tree

/-! # Items of the grammar

A rule of the grammar has alternatives, tried in order; an alternative is a list of items. Items match
tokens or other rules, look ahead, build the tree of the alternative, or complain about a mistake. -/

namespace Literate.Script

/-- The rules of the grammar. -/
inductive Rule where
  | program
  | alone
  | template
  | statements
  | statement
  | simpleStatements
  | simpleStatement
  | compoundStatement
  | assignment
  | annotatedValue
  | augment
  | returnStatement
  | raiseStatement
  | globalStatement
  | nonlocalStatement
  | delStatement
  | yieldStatement
  | assertStatement
  | importStatement
  | importFrom
  | importTargets
  | importNames
  | importAs
  | dottedAs
  | dottedName
  | block
  | decorators
  | classDefinition
  | classBody
  | functionDefinition
  | functionBody
  | parameterList
  | parameters
  | slashPlain
  | slashDefault
  | starParameters
  | keywordParameters
  | plainParameter
  | plainStarParameter
  | defaultParameter
  | anyParameter
  | parameter
  | starParameter
  | annotation
  | starAnnotation
  | defaultValue
  | ifStatement
  | elifStatement
  | elseBlock
  | whileStatement
  | forStatement
  | withStatement
  | withItem
  | tryStatement
  | exceptBlock
  | exceptStarBlock
  | finallyBlock
  | matchStatement
  | caseBlock
  | subject
  | patterns
  | openSequence
  | sequenceItems
  | sequenceItem
  | starPattern
  | pattern
  | asPattern
  | orPattern
  | closedPattern
  | literalPattern
  | signedNumber
  | plainNumber
  | realNumber
  | signedReal
  | imaginaryNumber
  | complexNumber
  | captureTarget
  | valuePath
  | namePath
  | sequencePattern
  | mappingPattern
  | entryPatterns
  | entryPattern
  | restPattern
  | classPattern
  | positionalPatterns
  | keywordPatterns
  | keywordPattern
  | expressions
  | expression
  | yieldExpression
  | starExpressions
  | starExpression
  | starNamedExpressions
  | starNamedExpression
  | assignmentExpression
  | namedExpression
  | disjunction
  | conjunction
  | inversion
  | comparison
  | comparisonPair
  | bitOr
  | bitXor
  | bitAnd
  | shift
  | addition
  | term
  | factor
  | power
  | awaited
  | primary
  | slices
  | slice
  | atom
  | group
  | lambdaExpression
  | lambdaList
  | lambdaParameters
  | lambdaSlashPlain
  | lambdaSlashDefault
  | lambdaStar
  | lambdaKeywords
  | lambdaPlain
  | lambdaDefault
  | lambdaAny
  | lambdaParameter
  | texts
  | listDisplay
  | tupleDisplay
  | setDisplay
  | dictDisplay
  | starredPairs
  | starredPair
  | pair
  | clauses
  | clause
  | listComprehension
  | setComprehension
  | generator
  | dictComprehension
  | arguments
  | argumentList
  | keywordArguments
  | starredExpression
  | keywordOrStarred
  | keywordOrDoubleStarred
  | targets
  | targetItems
  | targetTupleItems
  | target
  | targetPart
  | targetAtom
  | singleTarget
  | singleMember
  | targetPrimary
  | targetAhead
  | delTargets
  | delTarget
  | delAtom
  | wrongArguments
  | wrongKeyword
  | plainExpression
  | wrongCall
  | wrongExpression
  | wrongNamed
  | wrongAssignment
  | wrongAnnotated
  | wrongDel
  | wrongBlock
  | wrongComprehension
  | wrongDictComprehension
  | wrongParameters
  | wrongParametersStart
  | wrongDefault
  | wrongStar
  | wrongKeywords
  | wrongLambda
  | wrongLambdaStart
  | wrongLambdaStar
  | wrongLambdaKeywords
  | wrongWithItem
  | wrongForTarget
  | wrongGroup
  | wrongImport
  | wrongWith
  | wrongWithBlock
  | wrongTry
  | wrongExcept
  | wrongFinally
  | wrongExceptBlock
  | wrongExceptStarBlock
  | wrongMatch
  | wrongCase
  | wrongAsPattern
  | wrongClassPattern
  | wrongClassArguments
  | wrongIf
  | wrongElif
  | wrongElse
  | wrongWhile
  | wrongFor
  | wrongFunction
  | wrongClass
  | wrongPairs
  | wrongPair
deriving DecidableEq

/-- Kinds of tokens that the grammar asks for. -/
inductive Terminal where
  | name
  | number
  | text
  | newline
  | indent
  | dedent
  | finish
  /-- A name that is a word of the grammar in some places, or the start of one. -/
  | softWord

/-- Whether a token is of a kind. -/
def Terminal.accepts (terminal : Terminal) (t : Token) : Bool :=
  match terminal, t.kind with
  | name, .name => true
  | number, .number => true
  | text, .text => true
  | newline, .newline => true
  | indent, .indent => true
  | dedent, .dedent => true
  | finish, .finish => true
  | softWord, .name => ["_", "case", "match"].any fun word => t.written.isPrefixOf word.toList
  | _, _ => false

/-- Where reading stands when a mistake is found. -/
structure Moment where
  /-- The line of the furthest token that was looked at. -/
  line : Nat
  /-- How many brackets are open behind the last token that was matched. -/
  level : Nat

/-- An error to report about the trees that were matched, if they are a mistake. -/
abbrev Complaint := Moment → List Tree → Option ReadError

/-- An item of an alternative. -/
inductive Item where
  /-- A keyword or a symbol. -/
  | word (s : String)
  /-- A name that is a word here. -/
  | soft (s : String)
  /-- A token of a kind. -/
  | one (t : Terminal)
  | rule (r : Rule)
  /-- A rule for a mistake, which is tried only once the program is known to have one. -/
  | mistake (r : Rule)
  | choice (alternatives : List (List Item))
  | maybe (alternatives : List (List Item))
  | each (i : Item)
  | several (i : Item)
  /-- One or more of an item, divided by another. -/
  | joined (divider i : Item)
  | ahead (i : Item)
  | notAhead (i : Item)
  /-- No other alternative is tried from here on. -/
  | commit
  /-- A symbol without which the program is wrong. -/
  | forced (s : String)
  /-- Check what was matched. -/
  | verify (c : Complaint)
  /-- Read the texts that were matched, and what stands inside them. -/
  | readTexts
  /-- The end of an alternative that gives the tree at a position. -/
  | pick (n : Nat)
  /-- The end of an alternative that gives a node of all its trees. -/
  | build (s : Shape)
  /-- The end of an alternative that is a mistake, or else no match. -/
  | complain (c : Complaint)

instance : Coe String Item := ⟨.word⟩
instance : Coe Rule Item := ⟨.rule⟩

/-- Complain at the line of the tree at a position. -/
def complainAt (n : Nat) (message : String) : Item :=
  .complain fun _ trees => (trees[n]?).map fun tree => ⟨message, tree.line, .grammar⟩

/-- Complain at the furthest token that was looked at. -/
def complainHere (message : String) : Item :=
  .complain fun moment _ => some ⟨message, moment.line, .grammar⟩

/-- Complain about a block that is not indented, after the tree at a position. -/
def complainBlock (n : Nat) (what : String) : Item :=
  .complain fun moment trees =>
    (trees[n]?).map fun tree =>
      ⟨s!"expected an indented block after {what} on line {tree.line}", moment.line, .indentation⟩

/-- Complain about the tree at a position by what it is called. -/
def complainCalled (n : Nat) (before after : String) : Item :=
  .complain fun _ trees =>
    (trees[n]?).map fun tree => ⟨before ++ tree.called ++ after, tree.line, .grammar⟩

/-- Complain about the part of the tree at a position that cannot be a target. -/
def complainTarget (n : Nat) (aim : Aim) : Item :=
  .complain fun _ trees =>
    (trees[n]?).bind fun tree =>
      (tree.notTarget? aim).map fun part =>
        let verb := if aim = .delete then "delete" else "assign to"
        ⟨s!"cannot {verb} {part.called}", part.line, .grammar⟩

end Literate.Script
