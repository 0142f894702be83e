import Literate.Script.Known
import Literate.Script.Read
import Literate.Text.Quoted

/-! # What may stand where

Some statements and expressions need a function, a loop or an asynchronous function around them, some
names cannot be assigned to, and a sequence can be unpacked among others only. `checkStmts` goes
through a program in the order in which it is made ready to run, up to the first such error. On the way
it makes remarks on expressions that can never be evaluated, or never be meant: a number is called, a
text stands where a position is needed, a literal is compared by identity. -/

namespace Literate.Script

open Text

/-! ### Places -/

/-- The scope that a piece of code belongs to. -/
inductive ScopeKind where
  | program
  | classBody
  | function
  | asyncFunction
  | lambda
  | comprehension
deriving DecidableEq

def ScopeKind.isFunction : ScopeKind → Bool
  | program | classBody => false
  | _ => true

/-- A block that has to be left when control goes elsewhere. -/
inductive Frame where
  | loop
  /-- The part of a `try` statement whose final block still has to run. -/
  | guarded (final : List Tree)
  /-- The body of a `with` statement, whose manager is called at its end. -/
  | managed
  /-- A handler of a group of failures. -/
  | groupHandler
  | other

/-- Where a piece of code stands. -/
structure Place where
  scope : ScopeKind := .program
  /-- Whether the scope can be suspended, and whether it yields values. -/
  suspends : Bool := false
  yields : Bool := false
  /-- The blocks around it, innermost first. -/
  frames : List Frame := []
  /-- Whether annotations are not evaluated. -/
  lazy : Bool := false
  /-- The line of the last import of a future feature that counts. -/
  futureLine : Nat := 0

/-- What an expression is there for. -/
inductive Access where
  | load
  | store
  | delete
deriving DecidableEq

/-- End in an error at a line. -/
def wrong {α : Type} (line : Int) (message : String) : Read α := Read.fail ⟨message, line, .grammar⟩

/-- The most blocks that may be open in a scope. -/
def frameLimit : Nat := 20

def Place.enter (p : Place) (line : Int) (f : Frame) : Read Place :=
  if frameLimit ≤ p.frames.length then wrong line "too many statically nested blocks"
  else return { p with frames := f :: p.frames }

def Place.inScope (p : Place) (scope : ScopeKind) (suspends yields : Bool) : Place :=
  { p with scope, suspends, yields, frames := [] }

/-! ### What a scope holds -/

/-- Whether a scope that holds a tree itself, and not in a function of its own, has a node that `p`
accepts. Of a comprehension only what it goes through first counts, unless `p` accepts what it does. -/
def occurs (p : Shape → Bool) : Nat → Tree → Bool
  | 0, _ => false
  | _, .token _ => false
  | fuel + 1, .run trees => trees.any (occurs p fuel)
  | fuel + 1, .node shape line parts =>
    let tree := Tree.node shape line parts
    p shape ||
      match shape with
      | .function | .define | .asyncDefine | .classBody => parts.dropLast.any (occurs p fuel)
      | .listComprehension | .setComprehension | .dictComprehension | .generator =>
        match tree.asExpr with
        | .comprehension kind element value clauses =>
          (clauses.head?.any fun c => occurs p fuel c.source) ||
            (p .await && kind != .generator && awaits fuel element value clauses)
        | _ => false
      | _ => parts.any (occurs p fuel)
where
  awaits (fuel : Nat) (element : Tree) (value : Option Tree) (clauses : List Clause) : Bool :=
    let inner := element :: value.toList ++ clauses.flatMap (fun c => c.target :: c.conditions) ++
      clauses.tail.map Clause.source
    clauses.any Clause.async || inner.any (occurs p fuel)

/-- Whether a node waits for something. -/
def isAwait (shape : Shape) : Bool := shape = .await

def isYield (shape : Shape) : Bool := shape = .yield || shape = .yieldFrom

/-! ### Remarks -/

def callRemark? (f : Option Known) : Option String :=
  match f with
  | none | some .function => none
  | some k => some s!"'{k.typeName}' object is not callable; perhaps you missed a comma?"

def indexRemark? (e position : Option Known) : Option String :=
  match e with
  | none | some .dict => none
  | some k =>
    let isSequence := k.members?.isSome || k matches .someTuple | .list | .template
    if !isSequence then
      some s!"'{k.typeName}' object is not subscriptable; perhaps you missed a comma?"
    else
      match position with
      | none => none
      | some p =>
        if p.int?.isSome then none
        else
          some <| s!"{k.typeName} indices must be integers or slices, not {p.typeName}; " ++
            "perhaps you missed a comma?"

/-- Whether a constant is a literal: one that may exist more than once. -/
def isLiteral : Option Known → Bool
  | none | some .none | some .ellipsis | some (.bool _) => false
  | some _ => true

/-- The remark on a comparison by identity; `flipped` says that its result is negated. -/
def identityRemark? (flipped : Bool) : Bool → List (List Tree × Bool) → Option String
  | _, [] => none
  | left, (op, right) :: rest =>
    let isSame := op.head?.any (Tree.isSymbol "is")
    if isSame && (left || right) then
      if (op.length = 1) != flipped then some "\"is\" with a literal. Did you mean \"==\"?"
      else some "\"is not\" with a literal. Did you mean \"!=\"?"
    else identityRemark? flipped right rest

def remark (line : Nat) : Option String → Read Unit
  | none => return ()
  | some message => Read.remark ⟨line, message⟩

/-! ### Names -/

/-- A name that is assigned to or deleted must not be a constant. -/
def checkName (line : Int) (access : Access) (n : Text) : Read Unit :=
  if n ≠ debugName then return ()
  else
    match access with
    | .load => return ()
    | .store => wrong line "cannot assign to __debug__"
    | .delete => wrong line "cannot delete __debug__"

/-- The parameters of a function must not be constants. -/
def checkSignature (line : Nat) (s : Signature) : Read Unit :=
  s.all.forM fun p => checkName line .store p.name

/-- Keywords must not be constants, nor be repeated. -/
def checkKeywords (line : Nat) : List Keyword → Read Unit
  | [] => return ()
  | k :: rest => do
    match k.name with
    | none => checkKeywords line rest
    | some n =>
      checkName line .store n
      match rest.find? fun other => other.name = some n with
      | some other => wrong other.line s!"keyword argument repeated: {str n}"
      | none => checkKeywords line rest

/-! ### Expressions -/

/-- The expression that is unpacked, or the expression itself. -/
def unpacked (tree : Tree) : Tree :=
  match tree.asExpr with
  | .starred e => e
  | _ => tree

/-- Whether a tree is an unpacked sequence. -/
def isStarred (tree : Tree) : Bool := tree.asExpr matches .starred _

/-- At most one of the targets that a sequence is taken apart into takes what is left. -/
def checkTargets (line : Nat) (targets : List Tree) : Read Unit :=
  if 1 < (targets.filter isStarred).length then
    wrong line "multiple starred expressions in assignment"
  else return ()

/-- Whether a comparison that is negated is made into its opposite. -/
def isFlippable (tree : Tree) : Bool :=
  match tree.asExpr with
  | .negation _ => true
  | .comparison _ [(op, _)] => ["is", "in", "not"].any fun word => op.head?.any (Tree.isSymbol word)
  | _ => false

/-- Check an expression; `flipped` says that it is a comparison whose result is negated. -/
def checkExpr : Nat → Place → Access → Bool → Tree → Read Unit
  | 0, _, _, _, _ => return ()
  | fuel + 1, p, access, flipped, tree => do
    let line := tree.line
    let visit (e : Tree) : Read Unit := checkExpr fuel p .load false e
    let visitAll (es : List Tree) : Read Unit := es.forM visit
    match tree.asExpr with
    | .name n => checkName line access n
    | .constant _ | .unknown => return ()
    | .texts _ inner => visitAll inner
    | .tuple items | .list items =>
      match access with
      | .load => visitAll (items.map unpacked)
      | .store =>
        checkTargets line items
        (items.map unpacked).forM (checkExpr fuel p .store false)
      | .delete => items.forM (checkExpr fuel p .delete false)
    | .set items => visitAll (items.map unpacked)
    | .dict entries =>
      entries.forM fun (key, value) => do
        key.forM visit
        visit value
    | .call f arguments keywords =>
      checkKeywords line keywords
      remark line (callRemark? (known? fuel f))
      visit f
      visitAll (arguments.map unpacked)
      visitAll (keywords.map Keyword.value)
    | .member e n =>
      visit e
      if access = .store then checkName (memberLine tree) .store n
    | .index e position =>
      if access = .load then
        remark line (indexRemark? (known? fuel e) (known? fuel position))
      visit e
      visit position
    | .slice bounds => visitAll bounds
    | .starred _ =>
      if access = .store then wrong line "starred assignment target must be in a list or tuple"
      else wrong line "can't use starred expression here"
    | .choice test yes no => visitAll [test, yes, no]
    | .function signature body =>
      checkSignature line signature
      visitAll signature.defaults
      let inner := p.inScope .lambda (occurs isAwait fuel body) (occurs isYield fuel body)
      checkExpr fuel inner .load false body
    | .named target value =>
      visit value
      checkExpr fuel p .store false target
    | .either operands | .both operands => visitAll operands
    | .negation e =>
      if isFlippable e then checkExpr fuel p .load (!flipped) e else visit e
    | .unary _ e => visit e
    | .binary a _ b => visitAll [a, b]
    | .comparison first others =>
      let literal (e : Tree) : Bool := isLiteral (constant? fuel e)
      let compared := others.map fun (op, e) => (op, literal e)
      remark line (identityRemark? flipped (literal first) compared)
      visit first
      visitAll (others.map Prod.snd)
    | .await e =>
      if !p.scope.isFunction then wrong line "'await' outside function"
      if p.scope ≠ .asyncFunction && p.scope ≠ .comprehension then
        wrong line "'await' outside async function"
      visit e
    | .yield e? =>
      if !p.scope.isFunction then wrong line "'yield' outside function"
      e?.forM visit
    | .yieldFrom e =>
      if !p.scope.isFunction then wrong line "'yield' outside function"
      if p.scope = .asyncFunction then wrong line "'yield from' inside async function"
      visit e
    | .comprehension kind element value clauses =>
      let suspends := occurs.awaits isAwait fuel element value clauses
      if suspends && kind ≠ .generator && p.scope ≠ .asyncFunction && p.scope ≠ .comprehension then
        wrong line "asynchronous comprehension outside of an asynchronous function"
      let inner := p.inScope .comprehension suspends false
      clauses.zipIdx.forM fun (c, i) => do
        if i ≠ 0 then checkExpr fuel inner .load false c.source
        checkExpr fuel inner .store false c.target
        c.conditions.forM (checkExpr fuel inner .load false)
      checkExpr fuel inner .load false element
      value.forM (checkExpr fuel inner .load false)
      clauses.head?.forM fun c => visit c.source
where
  memberLine : Tree → Nat
    | .node .member _ [_, _, name] => name.line
    | tree => tree.line

/-! ### Patterns -/

/-- The names that a pattern has bound so far. -/
abbrev Stores := List Text

/-- Bind one more name. -/
def store (line : Nat) (stores : Stores) (n : Text) : Read Stores := do
  checkName line .store n
  if stores.contains n then wrong line s!"multiple assignments to name {str (quoted n)} in pattern"
  return stores ++ [n]

/-- Whether a pattern matches anything and binds nothing. -/
def isWildcard (tree : Tree) : Bool :=
  match tree.asPattern with
  | .capture none | .star none => true
  | _ => false

/-- Whether a pattern takes the rest of a sequence. -/
def isStarPattern (tree : Tree) : Bool := tree.asPattern matches .star _

def keyText? (k : Known) : Option Text :=
  match k with
  | .none => some "None".toList
  | .bool b => some (if b then "True" else "False").toList
  | .int n => some (toString n).toList
  | .text t => some (quoted t)
  | .bytes t => some ('b' :: quoted t)
  | _ => none

def sameKey (a b : Known) : Bool :=
  match a.int?, b.int? with
  | some m, some n => m = n
  | none, none => keyText? a = keyText? b
  | _, _ => false

/-- Whether an expression is a text with expressions inside it. -/
def isTemplate (tree : Tree) : Bool :=
  match tree.asExpr with
  | .texts written _ => written.any (Tree.hasMark 'f')
  | _ => false

/-- Check the keys of a pattern for tables, given those before. -/
def checkKeys (fuel : Nat) (p : Place) (line : Nat) (seen : List Known) : List Tree → Read Unit
  | [] => return ()
  | key :: rest => do
    let known := (constant? fuel key).filter fun k => (keyText? k).isSome
    if let some k := known then
      if seen.any (sameKey k) then
        wrong line s!"mapping pattern checks duplicate key ({str ((keyText? k).getD [])})"
    if isTemplate key then
      wrong line "mapping pattern keys may only match literals and attribute lookups"
    checkExpr fuel p .load false key
    checkKeys fuel p line (seen ++ known.toList) rest

/-- The attributes of a pattern must not be constants, nor be repeated. -/
def checkAttributes : List (Text × Tree) → Read Unit
  | [] => return ()
  | (n, tree) :: rest => do
    checkName tree.line .store n
    match rest.find? fun other => other.1 = n with
    | some other => wrong other.2.line s!"attribute name repeated in class pattern: {str n}"
    | none => checkAttributes rest

mutual

/-- Check a pattern: the names that it binds beside those that are bound already. `last` says whether it
may match anything. -/
def checkPattern : Nat → Place → Bool → Stores → Tree → Read Stores
  | 0, _, _, stores, _ => return stores
  | fuel + 1, p, last, stores, tree => do
    let line := tree.line
    match tree.asPattern with
    | .value e =>
      if isTemplate e then wrong line "patterns may only match literals and attribute lookups"
      checkExpr fuel p .load false e
      return stores
    | .single | .star none => return stores
    | .star (some n) => store line stores n
    | .capture none =>
      if !last then wrong line "wildcard makes remaining patterns unreachable"
      return stores
    | .capture (some n) =>
      if !last then
        wrong line s!"name capture {str (quoted n)} makes remaining patterns unreachable"
      store line stores n
    | .renamed inner n =>
      let stores ← checkPattern fuel p last stores inner
      store line stores n
    | .sequence items =>
      if 1 < (items.filter isStarPattern).length then
        wrong line "multiple starred names in sequence pattern"
      if items.all isWildcard then return stores
      let skipsStar := items.any fun item => isStarPattern item && isWildcard item
      checkPatterns fuel p stores (if skipsStar then items.filter (!isWildcard ·) else items)
    | .mapping entries rest =>
      checkKeys fuel p line [] (entries.map Prod.fst)
      let stores ← checkPatterns fuel p stores (entries.map Prod.snd)
      match rest with
      | some n => store line stores n
      | none => return stores
    | .object type positional keywords =>
      checkAttributes keywords
      checkExpr fuel p .load false type
      checkPatterns fuel p stores ((positional ++ keywords.map Prod.snd).filter (!isWildcard ·))
    | .either patterns =>
      match patterns with
      | [] => return stores
      | first :: rest =>
        let control ← checkPattern fuel p (last && rest.isEmpty) [] first
        checkAlternatives fuel p last control rest
        control.foldlM (store line) stores

def checkPatterns : Nat → Place → Stores → List Tree → Read Stores
  | 0, _, stores, _ => return stores
  | _, _, stores, [] => return stores
  | fuel + 1, p, stores, tree :: rest => do
    let stores ← checkPattern fuel p true stores tree
    checkPatterns fuel p stores rest

/-- Check alternatives, which have to bind the same names. -/
def checkAlternatives : Nat → Place → Bool → Stores → List Tree → Read Unit
  | 0, _, _, _, _ => return ()
  | _, _, _, _, [] => return ()
  | fuel + 1, p, last, control, tree :: rest => do
    let found ← checkPattern fuel p (last && rest.isEmpty) [] tree
    if found.length ≠ control.length || control.any fun n => !found.contains n then
      wrong tree.line "alternative patterns bind different names"
    checkAlternatives fuel p last control rest

end

/-! ### Statements -/

/-- What is wrong with leaving a handler of a group of failures. -/
def leavesGroup : String := "'break', 'continue' and 'return' cannot appear in an except* block"

/-- The annotations of a function, in the order in which they are evaluated. -/
def evaluatedHints (s : Signature) (result : Option Tree) : List Tree :=
  ((s.plain ++ s.nameless ++ s.star.toList ++ s.named ++ s.doubleStar.toList).filterMap
      Parameter.hint ++ result.toList).map unpacked

/-- Whether an assertion can never fail. -/
def alwaysHolds (fuel : Nat) (test : Tree) : Bool :=
  match test.asExpr, constant? fuel test with
  | .tuple items, _ => !items.isEmpty
  | _, some (.tuple items) => !items.isEmpty
  | _, _ => false

/-- The message about an import of a future feature that comes too late. -/
def lateFuture : String := "from __future__ imports must occur at the beginning of the file"

def futureModule : Text := "__future__".toList

mutual

def checkStmt : Nat → Place → Tree → Read Unit
  | 0, _, _ => return ()
  | fuel + 1, p, tree => do
    let line := tree.stmtLine
    let visit (e : Tree) : Read Unit := checkExpr fuel p .load false e
    let store (e : Tree) : Read Unit := checkExpr fuel p .store false e
    match tree.asStmt with
    | .evaluate e => visit e
    | .assign targets value =>
      visit value
      targets.forM store
    | .augment target value =>
      match target.asExpr with
      | .member e _ => visit e
      | .index e position =>
        visit e
        visit position
      | _ => pure ()
      visit value
      match target.asExpr with
      | .name n => checkName target.line .store n
      | _ => pure ()
    | .annotate plain target hint value =>
      let isEvaluated := !p.lazy && !p.scope.isFunction
      if let some v := value then
        visit v
        store target
      match target.asExpr with
      | .name n =>
        checkName line .store n
        if plain && isEvaluated then visit hint
      | .member e n =>
        checkName line .store n
        if value.isNone then visit e
      | .index e position =>
        if value.isNone then
          visit e
          visit position
      | _ => pure ()
      if !plain && isEvaluated then visit hint
    | .give e? =>
      if !p.scope.isFunction then wrong line "'return' outside function"
      if e?.isSome && p.suspends && p.yields then
        wrong line "'return' with value in async generator"
      e?.forM visit
      let keeps := e?.any fun e => (constant? fuel e).isNone
      let _ ← leave fuel p line keeps false p.frames
    | .raise es => es.forM visit
    | .pass | .unknown | .global _ | .nonlocal _ => return ()
    | .leave isBreak =>
      let found ← leave fuel p line false true p.frames
      if !found then
        wrong line (if isBreak then "'break' outside loop" else "'continue' not properly in loop")
    | .delete targets => targets.forM (checkExpr fuel p .delete false)
    | .assert test message =>
      if alwaysHolds fuel test then
        Read.remark ⟨line, "assertion is always true, perhaps remove parentheses?"⟩
      visit test
      message.forM visit
    | .importing names => names.forM fun i => checkName line .store i.bound
    | .importingFrom origin names _ =>
      if origin = futureModule && p.futureLine < line then wrong line lateFuture
      names.forM fun names => names.forM fun i => checkName line .store i.bound
    | .define async decorators name signature result body =>
      checkSignature line signature
      decorators.forM visit
      signature.defaults.forM visit
      if !p.lazy then (evaluatedHints signature result).forM visit
      let holds (accepts : Shape → Bool) : Bool := body.any (occurs accepts fuel)
      let scope := if async then ScopeKind.asyncFunction else .function
      checkStmts fuel (p.inScope scope (async || holds isAwait) (holds isYield)) body
      checkName line .store name
    | .classBody decorators name arguments keywords body =>
      decorators.forM visit
      checkStmts fuel (p.inScope .classBody false false) body
      checkKeywords line keywords
      (arguments.map unpacked).forM visit
      keywords.forM fun k => visit k.value
      checkName line .store name
    | .condition test body otherwise =>
      visit test
      checkStmts fuel p body
      checkStmts fuel p otherwise
    | .whileLoop test body otherwise =>
      let inner ← p.enter line .loop
      checkExpr fuel inner .load false test
      checkStmts fuel inner body
      checkExpr fuel inner .load false test
      checkStmts fuel p otherwise
    | .forLoop async target source body otherwise =>
      if async && p.scope ≠ .asyncFunction then wrong line "'async for' outside async function"
      let inner ← p.enter line .loop
      checkExpr fuel inner .load false source
      checkExpr fuel inner .store false target
      checkStmts fuel inner body
      checkStmts fuel p otherwise
    | .within async managers body =>
      if async && p.scope ≠ .asyncFunction then wrong line "'async with' outside async function"
      checkManagers fuel p line managers body
    | .attempt group body handlers otherwise final =>
      if final.isEmpty then checkHandlers fuel p line group body handlers otherwise
      else
        let guarded ← p.enter line (.guarded final)
        if handlers.isEmpty then checkStmts fuel guarded body
        else checkHandlers fuel guarded line group body handlers otherwise
        checkStmts fuel p final
        checkStmts fuel (← p.enter (-1) .other) final
    | .matching subject branches =>
      visit subject
      checkCases fuel p (1 < branches.length) branches

def checkStmts : Nat → Place → List Tree → Read Unit
  | 0, _, _ => return ()
  | _, _, [] => return ()
  | fuel + 1, p, tree :: rest => do
    checkStmt fuel p tree
    checkStmts fuel p rest

/-- Check the managers of a `with` statement, and its body. -/
def checkManagers : Nat → Place → Nat → List Manager → List Tree → Read Unit
  | 0, _, _, _, _ => return ()
  | fuel + 1, p, _, [], body => checkStmts fuel p body
  | fuel + 1, p, line, m :: rest, body => do
    checkExpr fuel p .load false m.e
    let inner ← p.enter line .managed
    m.target.forM (checkExpr fuel inner .store false)
    checkManagers fuel inner line rest body

/-- Check a `try` statement without its final block. -/
def checkHandlers : Nat → Place → Nat → Bool → List Tree → List Handler → List Tree → Read Unit
  | 0, _, _, _, _, _, _ => return ()
  | fuel + 1, p, line, group, body, handlers, otherwise => do
    checkStmts fuel (← p.enter line .other) body
    if !group then checkStmts fuel p otherwise
    let inner ← p.enter line (if group then .groupHandler else .other)
    handlers.zipIdx.forM fun (h, i) => do
      if h.kind.isNone && i + 1 < handlers.length then
        wrong h.line "default 'except:' must be last"
      h.kind.forM (checkExpr fuel inner .load false)
      if !group then h.name.forM (checkName h.line .store)
      checkStmts fuel (← inner.enter h.line .other) h.body
      if group then h.name.forM (checkName (-1) .delete)
    if group then checkStmts fuel p otherwise

/-- Check the cases of a `match` statement; `several` says whether there are more of them. -/
def checkCases : Nat → Place → Bool → List Case → Read Unit
  | 0, _, _, _ => return ()
  | _, _, _, [] => return ()
  | fuel + 1, p, several, b :: rest => do
    let isDefault := several && rest.isEmpty && isWildcard b.pattern
    if !isDefault then
      let _ ← checkPattern fuel p (b.condition.isSome || rest.isEmpty) [] b.pattern
    b.condition.forM (checkExpr fuel p .load false)
    checkStmts fuel p b.body
    checkCases fuel p several rest

/-- Leave blocks, up to a loop if `toLoop` says so; the result is whether there is one. Final blocks run
on the way, and managers are called, after which there is no line to complain about; `keeps` says whether
a value is kept meanwhile. -/
def leave : Nat → Place → Int → Bool → Bool → List Frame → Read Bool
  | 0, _, _, _, _, _ => return false
  | _, _, _, _, _, [] => return false
  | fuel + 1, p, line, keeps, toLoop, f :: rest => do
    match f with
    | .groupHandler => wrong line leavesGroup
    | .loop => if toLoop then return true else leave fuel p line keeps toLoop rest
    | .other => leave fuel p line keeps toLoop rest
    | .managed => leave fuel p (-1) keeps toLoop rest
    | .guarded final =>
      let outer := { p with frames := rest }
      checkStmts fuel (if keeps then { outer with frames := .other :: rest } else outer) final
      leave fuel p (-1) keeps toLoop rest

end

/-! ### Future features -/

/-- The features that can be imported ahead of their time. -/
def futureFeatures : List String :=
  ["nested_scopes", "generators", "division", "absolute_import", "with_statement", "print_function",
   "unicode_literals", "barry_as_FLUFL", "generator_stop", "annotations"]

/-- What the imports of future features at the start of a program say: the line of the last one, and
whether annotations are not evaluated. -/
structure Future where
  line : Nat := 0
  lazy : Bool := false

def checkFeatures (line : Nat) : List Imported → Except ReadError Unit
  | [] => .ok ()
  | i :: rest =>
    let name := str i.path
    if futureFeatures.contains name then checkFeatures line rest
    else if name = "braces" then .error ⟨"not a chance", line, .grammar⟩
    else .error ⟨s!"future feature {String.ofList (i.path.take 100)} is not defined", line, .grammar⟩

/-- The imports of future features that statements start with. -/
def future (found : Future) : List Tree → Except ReadError Future
  | [] => .ok found
  | tree :: rest =>
    match tree.asStmt with
    | .importingFrom origin names _ =>
      if origin ≠ futureModule then .ok found
      else do
        let features := names.getD [⟨['*'], ['*'], tree.line⟩]
        checkFeatures tree.line features
        let lazy := features.any fun i => i.path = "annotations".toList
        future { line := tree.line, lazy := found.lazy || lazy } rest
    | _ => .ok found

/-- The imports of future features of a program; a text may stand before them. -/
def programFuture : List Tree → Except ReadError Future
  | [] => .ok {}
  | first :: rest =>
    match first.asStmt with
    | .evaluate e => if isDescription e then future {} rest else .ok {}
    | _ => future {} (first :: rest)
where
  isDescription (e : Tree) : Bool :=
    match e.asExpr with
    | .texts written _ => !written.any fun t => t.hasMark 'f' || t.hasMark 'b'
    | _ => false

end Literate.Script
