import Literate.Script.Tree
import Literate.Text.NormalForm

/-! # What trees stand for

A tree is looked at one level at a time: `Tree.asExpr` says what an expression is made of, `Tree.asStmt`
does so for a statement. The passes over a program that come after the grammar see trees only in this
way, so how the grammar lays out its nodes matters here and nowhere else. -/

namespace Literate.Script

open Text

namespace Tree

/-! ### Parts -/

def name? : Tree → Option Text
  | token t =>
    match t.kind with
    | .name => some (normalForm t.written)
    | _ => none
  | _ => none

/-- The trees of a display or of a list of arguments, whatever groups them. -/
def elements (parts : List Tree) : List Tree :=
  (members parts).flatMap fun tree =>
    match tree with
    | node .arguments _ parts =>
      (members parts).flatMap fun tree =>
        match tree with
        | node .keywords _ parts => members parts
        | tree => [tree]
    | tree => [tree]

def statements : Tree → List Tree
  | node .line _ parts => (itemsIn parts).filter isStatement
  | tree =>
    tree.items.flatMap fun part =>
      match part with
      | node .line _ parts => (itemsIn parts).filter isStatement
      | part => [part]
where
  isStatement : Tree → Bool
    | node .. => true
    | _ => false

end Tree

/-! ### Parameters -/

/-- A parameter of a function. -/
structure Parameter where
  name : Text
  line : Nat
  hint : Option Tree := none
  default : Option Tree := none

/-- The parameters of a function. -/
structure Signature where
  /-- Parameters that cannot be given by name. -/
  nameless : List Parameter := []
  plain : List Parameter := []
  /-- The parameter that takes further arguments. -/
  star : Option Parameter := none
  /-- Parameters that have to be given by name. -/
  named : List Parameter := []
  /-- The parameter that takes further named arguments. -/
  doubleStar : Option Parameter := none

namespace Signature

def parameter? : Tree → Option Parameter
  | .node .defaulted _ (first :: more) =>
    (plain? first).map fun p => { p with default := (Tree.members more).head? }
  | tree => plain? tree
where
  plain? : Tree → Option Parameter
    | .token t => ((Tree.token t).name?).map fun name => { name, line := t.line }
    | .node .typed line (first :: more) =>
      first.name?.map fun name => { name, line, hint := (Tree.itemsIn more).head? }
    | _ => none

/-- A signature with what a part of a list of parameters adds to it. -/
def add (s : Signature) (tree : Tree) : Signature :=
  match tree with
  | .node .slash _ parts => { s with nameless := (Tree.itemsIn parts).filterMap parameter? }
  | .node .star _ (_ :: first :: more) =>
    let further := Tree.itemsIn more
    { s with
      star := parameter? first
      named := further.filterMap parameter?
      doubleStar := further.findSome? doubleStar? }
  | .node .doubleStar .. => { s with doubleStar := doubleStar? tree }
  | tree => { s with plain := s.plain ++ (parameter? tree).toList }
where
  doubleStar? : Tree → Option Parameter
    | .node .doubleStar _ [_, first] => parameter? first
    | _ => none

/-- The signature of a list of parameters. -/
def ofTrees (trees : List Tree) : Signature :=
  (Tree.itemsIn trees).foldl
    (fun s tree =>
      match tree with
      | .node .parameters _ parts => (Tree.itemsIn parts).foldl add s
      | _ => s)
    {}

/-- All parameters, in the order in which they count as names. -/
def all (s : Signature) : List Parameter :=
  s.nameless ++ s.plain ++ s.named ++ s.star.toList ++ s.doubleStar.toList

/-- The defaults: those of parameters that may go without a name, then the others. -/
def defaults (s : Signature) : List Tree :=
  (s.nameless ++ s.plain ++ s.named).filterMap Parameter.default

end Signature

/-! ### Expressions -/

/-- An argument with a keyword, or an unpacked table. -/
structure Keyword where
  name : Option Text
  line : Nat
  value : Tree

/-- One loop of a comprehension. -/
structure Clause where
  async : Bool
  target : Tree
  source : Tree
  conditions : List Tree

/-- What a comprehension makes. -/
inductive Collection where
  | list
  | set
  | dict
  | generator
deriving DecidableEq

/-- The name that stands for a constant although it is written as a name. -/
def debugName : Text := "__debug__".toList

/-- What an expression is made of. -/
inductive ExprView where
  | name (n : Text)
  | constant (t : Token)
  /-- Texts, as written and with the expressions inside them. -/
  | texts (written inner : List Tree)
  | tuple (items : List Tree)
  | list (items : List Tree)
  | set (items : List Tree)
  /-- Keys and values; what is unpacked has no key. -/
  | dict (entries : List (Option Tree × Tree))
  | call (f : Tree) (arguments : List Tree) (keywords : List Keyword)
  | member (e : Tree) (name : Text)
  | index (e position : Tree)
  | slice (bounds : List Tree)
  | starred (e : Tree)
  | choice (test yes no : Tree)
  | function (signature : Signature) (body : Tree)
  | named (target value : Tree)
  | either (operands : List Tree)
  | both (operands : List Tree)
  | negation (e : Tree)
  | unary (op : Tree) (e : Tree)
  | binary (a op b : Tree)
  /-- The first operand, and the symbols and operands that follow. -/
  | comparison (first : Tree) (others : List (List Tree × Tree))
  | await (e : Tree)
  | yield (e : Option Tree)
  | yieldFrom (e : Tree)
  | comprehension (kind : Collection) (element : Tree) (value : Option Tree) (clauses : List Clause)
  | unknown

namespace Tree

def keyword? : Tree → Option Keyword
  | node .keyword line [name, _, value] => name.name?.map fun n => ⟨some n, line, value⟩
  | node .doubleStarred line [_, value] => some ⟨none, line, value⟩
  | _ => none

def callView (f : Tree) (parts : List Tree) : ExprView :=
  let found := elements parts
  .call f (found.filter fun tree => tree.keyword?.isNone) (found.filterMap keyword?)

/-- The loop of a comprehension that a tree is. -/
def clause? : Tree → Option Clause
  | node .clause _ [_, target, _, source, conditions] => some ⟨false, target, source, conditions.items⟩
  | node .asyncClause _ [_, _, target, _, source, conditions] =>
    some ⟨true, target, source, conditions.items⟩
  | _ => none

/-- The comprehension with trees as its loops. -/
def comprehensionView (kind : Collection) (element clauses : Tree) : ExprView :=
  let clauses := clauses.items.filterMap clause?
  match element with
  | node .pair _ [key, _, value] => .comprehension kind key (some value) clauses
  | element => .comprehension kind element none clauses

def entry? : Tree → Option (Option Tree × Tree)
  | node .pair _ [key, _, value] => some (some key, value)
  | node .doubleStarred _ [_, value] => some (none, value)
  | _ => none

/-- The symbols of a comparison and its right operand. -/
def compared? : Tree → Option (List Tree × Tree)
  | node .pair _ parts => parts.getLast?.map fun operand => (parts.dropLast, operand)
  | _ => none

/-- What an expression is made of. -/
def asExpr : Tree → ExprView
  | token t => ((token t).name?).elim (.constant t) .name
  | run _ => .unknown
  | node shape _ parts =>
    match shape, parts with
    | .texts, [written, inner] => .texts written.items inner.items
    | .tuple, parts => .tuple (elements parts)
    | .list, parts => .list (elements parts)
    | .set, parts => .set (elements parts)
    | .dict, parts => .dict ((elements parts).filterMap entry?)
    | .call, [f, argument] => .call f [argument] []
    | .call, [f, _, arguments, _] => callView f [arguments]
    | .member, [e, _, name] => name.name?.elim .unknown (.member e)
    | .index, [e, _, position, _] => .index e position
    | .slice, parts => .slice (members parts)
    | .starred, [_, e] => .starred e
    | .choice, [yes, _, test, _, no] => .choice test yes no
    | .function, [_, parameters, _, body] => .function (.ofTrees [parameters]) body
    | .named, [target, _, value] => .named target value
    | .either, [first, others] => .either (first :: others.items)
    | .both, [first, others] => .both (first :: others.items)
    | .negation, [_, e] => .negation e
    | .unary, [op, e] => .unary op e
    | .binary, [a, op, b] => .binary a op b
    | .comparison, [first, others] => .comparison first (others.items.filterMap compared?)
    | .await, [_, e] => .await e
    | .yield, [_, e] => .yield e.items.head?
    | .yieldFrom, [_, _, e] => .yieldFrom e
    | .listComprehension, [_, element, clauses, _] => comprehensionView .list element clauses
    | .setComprehension, [_, element, clauses, _] => comprehensionView .set element clauses
    | .dictComprehension, [_, element, clauses, _] => comprehensionView .dict element clauses
    | .generator, [_, element, clauses, _] => comprehensionView .generator element clauses
    | _, _ => .unknown

end Tree

/-! ### Statements -/

/-- A name that an import binds, or all names of a module. -/
structure Imported where
  /-- The name as it stands in the module, parts divided by dots. -/
  path : Text
  bound : Text
  line : Nat

/-- A manager of a `with` statement. -/
structure Manager where
  e : Tree
  target : Option Tree

/-- A handler of failures. -/
structure Handler where
  line : Nat
  kind : Option Tree
  name : Option Text
  body : List Tree

/-- What a pattern is made of. -/
inductive PatternView where
  | value (e : Tree)
  /-- One of the values that there is only one of. -/
  | single
  /-- A name, or anything at all. -/
  | capture (name : Option Text)
  | renamed (pattern : Tree) (name : Text)
  | either (patterns : List Tree)
  | sequence (items : List Tree)
  | star (name : Option Text)
  | mapping (entries : List (Tree × Tree)) (rest : Option Text)
  | object (type : Tree) (positional : List Tree) (keywords : List (Text × Tree))

/-- A case of a `match` statement. -/
structure Case where
  pattern : Tree
  condition : Option Tree
  body : List Tree

/-- What a statement is made of. -/
inductive StmtView where
  | evaluate (e : Tree)
  | assign (targets : List Tree) (value : Tree)
  | augment (target value : Tree)
  /-- An annotation; `plain` says that the target is a name without parentheses. -/
  | annotate (plain : Bool) (target hint : Tree) (value : Option Tree)
  | give (e : Option Tree)
  | raise (es : List Tree)
  | pass
  | leave (isBreak : Bool)
  | delete (targets : List Tree)
  | assert (test : Tree) (message : Option Tree)
  | global (names : List Text)
  | nonlocal (names : List Text)
  | importing (names : List Imported)
  /-- An import from a module; without names it imports all of them. -/
  | importingFrom (origin : Text) (names : Option (List Imported)) (line : Nat)
  | define (async : Bool) (decorators : List Tree) (name : Text) (signature : Signature)
      (result : Option Tree) (body : List Tree)
  | classBody (decorators : List Tree) (name : Text) (arguments : List Tree) (keywords : List Keyword)
      (body : List Tree)
  | condition (test : Tree) (body otherwise : List Tree)
  | whileLoop (test : Tree) (body otherwise : List Tree)
  | forLoop (async : Bool) (target source : Tree) (body otherwise : List Tree)
  | within (async : Bool) (managers : List Manager) (body : List Tree)
  | attempt (group : Bool) (body : List Tree) (handlers : List Handler) (otherwise final : List Tree)
  | matching (subject : Tree) (branches : List Case)
  | unknown

namespace Tree

def entryPattern? : Tree → Option (Tree × Tree)
  | node .entryPattern _ [key, _, pattern] => some (key, pattern)
  | _ => none

def restName? : Tree → Option Text
  | node .restPattern _ [_, name] => name.name?
  | _ => none

def keywordPattern? : Tree → Option (Text × Tree)
  | node .keywordPattern _ [name, _, pattern] => name.name?.map fun n => (n, pattern)
  | _ => none

/-- The pattern that an alternative without others is. -/
def soleAlternative : Tree → Tree
  | node .orPattern _ [run [pattern]] => pattern.soleAlternative
  | tree => tree

def asPattern (tree : Tree) : PatternView :=
  match tree.soleAlternative with
  | node .capture _ [name] => .capture name.name?
  | node .wildcard _ _ => .capture none
  | node .asPattern _ [pattern, _, name] => .renamed pattern (name.name?.getD [])
  | node .orPattern _ [patterns] => .either patterns.items
  | node .sequencePattern _ parts => .sequence (elements parts)
  | node .starPattern _ [_, name] => .star (name.name?.filter (· != ['_']))
  | node .mappingPattern _ parts =>
    .mapping ((itemsIn parts).filterMap entryPattern?) ((itemsIn parts).findSome? restName?)
  | node .classPattern _ (type :: parts) =>
    let found := members parts
    .object type (found.filter fun tree => tree.keywordPattern?.isNone) (found.filterMap keywordPattern?)
  | tree => if ["None", "True", "False"].any tree.isSymbol then .single else .value tree

def case? : Tree → Option Case
  | node .caseBlock _ [_, pattern, condition, _, body] =>
    some ⟨pattern, condition.items.head?, body.statements⟩
  | _ => none

def dottedParts : Tree → List Text
  | node .dotted _ [first, _, last] => first.dottedParts ++ last.name?.toList
  | tree => tree.name?.toList

/-- The name that an import binds: the one behind `as`, else the first part of its path. -/
def imported? : Tree → Option Imported
  | node .renamed line [path, as?] =>
    let parts := path.dottedParts
    let bound := (as?.items.head?.bind name?).or parts.head?
    some ⟨joinWith ['.'] parts, bound.getD [], line⟩
  | _ => none

def importedNames (targets : Tree) : Option (List Imported) :=
  if targets.isSymbol "*" then none else some (targets.items.filterMap imported?)

def manager : Tree → Manager
  | node .withinAs _ [e, _, target] => ⟨e, some target⟩
  | e => ⟨e, none⟩

def handler? : Tree → Option Handler
  | node .handler line [_, _, body] => some ⟨line, none, none, body.statements⟩
  | node .handler line [_, kind, name, _, body] =>
    some ⟨line, some kind, name.items.head?.bind name?, body.statements⟩
  | node .handler line [_, _, kind, name, _, body] =>
    some ⟨line, some kind, name.items.head?.bind name?, body.statements⟩
  | _ => none

/-- The statements of a branch: of a block behind `else` or `finally`, or a further condition. -/
def branch (tree : Tree) : List Tree :=
  tree.items.flatMap fun part =>
    match part with
    | node .otherwise _ [_, _, body] => body.statements
    | node .final _ [_, _, body] => body.statements
    | part => [part]

/-- The definition with decorators in front of it. -/
def definition (decorators : List Tree) : Tree → StmtView
  | node .define _ [_, name, _, parameters, _, result, _, body] =>
    name.name?.elim .unknown fun n =>
      .define false decorators n (.ofTrees [parameters]) result.items.head? body.statements
  | node .asyncDefine _ [_, _, name, _, parameters, _, result, _, body] =>
    name.name?.elim .unknown fun n =>
      .define true decorators n (.ofTrees [parameters]) result.items.head? body.statements
  | node .classBody _ [_, name, bases, _, body] =>
    name.name?.elim .unknown fun n =>
      let found := elements [bases]
      .classBody decorators n (found.filter fun tree => tree.keyword?.isNone)
        (found.filterMap keyword?) body.statements
  | _ => .unknown

/-- The line of a statement; that of a definition does not count its decorators. -/
def stmtLine : Tree → Nat
  | node .decorated _ [_, inner] => inner.line
  | tree => tree.line

/-- What a statement is made of. -/
def asStmt : Tree → StmtView
  | node shape line parts =>
    match shape, parts with
    | .evaluate, [e] => .evaluate e
    | .assign, [targets, value] => .assign targets.items value
    | .augment, [target, _, value] => .augment target value
    | .annotate, [target, _, hint, value] => .annotate true target hint value.items.head?
    | .annotatePart, [target, _, hint, value] =>
      .annotate false target hint value.items.head?
    | .give, [_, e] => .give e.items.head?
    | .raise, _ :: es => .raise (itemsIn es)
    | .pass, _ => .pass
    | .leave, [word] => .leave (word.isSymbol "break")
    | .delete, [_, targets] => .delete targets.items
    | .assert, [_, test, message] => .assert test message.items.head?
    | .global, [_, names] => .global (names.items.filterMap name?)
    | .nonlocal, [_, names] => .nonlocal (names.items.filterMap name?)
    | .importing, [_, names] => .importing (names.items.filterMap imported?)
    | .importingFrom, [_, dots, origin, _, targets] =>
      let path := if dots.items.isEmpty then joinWith ['.'] origin.dottedParts else []
      .importingFrom path (importedNames targets) targets.line
    | .importingFrom, [_, _, _, targets] => .importingFrom [] (importedNames targets) targets.line
    | .decorated, [decorators, inner] => definition decorators.items inner
    | .condition, [_, test, _, body, otherwise] =>
      .condition test body.statements otherwise.branch
    | .whileLoop, [_, test, _, body, otherwise] =>
      .whileLoop test body.statements otherwise.branch
    | .forLoop, [_, target, _, source, _, body, otherwise] =>
      .forLoop false target source body.statements otherwise.branch
    | .asyncFor, [_, _, target, _, source, _, body, otherwise] =>
      .forLoop true target source body.statements otherwise.branch
    | .within, parts => withinView false parts
    | .asyncWithin, parts => withinView true parts
    | .attempt, parts => attemptView false parts
    | .attemptGroup, parts => attemptView true parts
    | .matching, [_, subject, _, _, _, branches, _] =>
      .matching subject (branches.items.filterMap case?)
    | shape, parts => definition [] (node shape line parts)
  | _ => .unknown
where
  withinView (async : Bool) (parts : List Tree) : StmtView :=
    let managers := (parts.findSome? fun part =>
      match part with
      | run trees => some trees
      | _ => none).getD []
    .within async (managers.map manager) ((parts.getLast?.map statements).getD [])
  attemptView (group : Bool) : List Tree → StmtView
    | [_, _, body, final] => .attempt group body.statements [] [] final.branch
    | [_, _, body, handlers, otherwise, final] =>
      .attempt group body.statements (handlers.items.filterMap handler?) otherwise.branch final.branch
    | _ => .unknown

end Tree

end Literate.Script
