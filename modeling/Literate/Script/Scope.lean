import Literate.Script.Read
import Literate.Script.View
import Literate.Table

/-! # Names and their scopes

A program is a region of names, and so is every function, class and comprehension in it. A name of a
region is bound there, or stands for one of an outer region, or is global; which of these, is said by what
the region does with the name and by its declarations. `checkNames` goes through a program in order and
collects the names of every region, then it goes through the regions: declarations must not contradict
each other, nor what was done with a name before, and what is declared to belong to an outer function must
be bound there. -/

namespace Literate.Script

open Text

/-! ### Regions -/

/-- What is done with a name in a region. -/
structure Uses where
  parameter : Bool := false
  bound : Bool := false
  used : Bool := false
  annotated : Bool := false
  imported : Bool := false
  global : Bool := false
  nonlocal : Bool := false
  /-- Whether a loop of a comprehension binds it. -/
  iterated : Bool := false

def Uses.or (a b : Uses) : Uses :=
  { parameter := a.parameter || b.parameter
    bound := a.bound || b.bound
    used := a.used || b.used
    annotated := a.annotated || b.annotated
    imported := a.imported || b.imported
    global := a.global || b.global
    nonlocal := a.nonlocal || b.nonlocal
    iterated := a.iterated || b.iterated }

/-- Whether a region binds a name itself. -/
def Uses.binds (u : Uses) : Bool := u.bound || u.parameter || u.imported

/-- What a region belongs to. -/
inductive RegionKind where
  | program
  | classBody
  | function
  | comprehension (c : Collection)
  /-- An annotation, where annotations are not evaluated. -/
  | hint
deriving DecidableEq

/-- A region of names. -/
inductive Region where
  /-- Its names in the order in which they turn up, its declarations with their lines, and the regions
  inside it. -/
  | mk (kind : RegionKind) (names : Table Text Uses) (declared : List (Text × Nat))
      (inner : List Region)

/-- A region that is being collected. -/
structure OpenRegion where
  kind : RegionKind
  names : Table Text Uses := []
  declared : List (Text × Nat) := []
  inner : List Region := []
  /-- Whether what a comprehension goes through is being read. -/
  inSource : Bool := false
  /-- Whether the target of a comprehension's loop is being read. -/
  inTarget : Bool := false

def OpenRegion.close (b : OpenRegion) : Region := .mk b.kind b.names b.declared b.inner

/-- What collecting knows: the open regions, innermost first, and the innermost class. -/
structure Names where
  regions : List OpenRegion
  className : Option Text := none
  /-- Whether annotations are not evaluated. -/
  lazy : Bool := false

/-- Collecting names, which may find an error. -/
abbrev Naming := StateT Names (Except ReadError)

namespace Naming

def fail {α : Type} (line : Nat) (message : String) : Naming α := throw ⟨message, line, .grammar⟩

def region : Naming OpenRegion := do
  return (← get).regions.headD { kind := .program }

def onRegion (f : OpenRegion → OpenRegion) : Naming Unit :=
  modify fun s =>
    match s.regions with
    | b :: rest => { s with regions := f b :: rest }
    | [] => s

/-- Collect the names of a region inside the innermost one. -/
def inside (kind : RegionKind) (x : Naming Unit) : Naming Unit := do
  let outer ← region
  modify fun s => { s with regions := { kind, inSource := outer.inSource } :: s.regions }
  x
  modify fun s =>
    match s.regions with
    | b :: o :: rest => { s with regions := { o with inner := o.inner ++ [b.close] } :: rest }
    | regions => { s with regions }

/-- A name as a class has it: one that starts with two underscores, and does not end in them, is a name
of that class alone. -/
def privateName (className : Option Text) (n : Text) : Text :=
  let ends := "__".toList
  match className with
  | none => n
  | some c =>
    let core := c.dropWhile (· == '_')
    if ends.isPrefixOf n && !ends.isSuffixOf n && !core.isEmpty then '_' :: core ++ n else n

/-- What a region does with a name. -/
def usesIn (b : OpenRegion) (n : Text) : Naming Uses := do
  return (b.names.get? (privateName (← get).className n)).getD {}

/-- A region that does one more thing with a name. -/
def extended (b : OpenRegion) (n : Text) (u : Uses) (line : Nat) : Naming OpenRegion := do
  let key := privateName (← get).className n
  let before := (b.names.get? key).getD {}
  if u.parameter && before.parameter then
    fail line s!"duplicate argument '{str n}' in function definition"
  let all := before.or u
  if b.inTarget && (all.global || all.nonlocal) then
    fail line s!"comprehension inner loop cannot rebind assignment expression target '{str n}'"
  return { b with names := b.names.set key (if b.inTarget then { all with iterated := true } else all) }

/-- Note what the innermost region does with a name. -/
def note (n : Text) (u : Uses) (line : Nat) : Naming Unit := do
  let b ← extended (← region) n u line
  onRegion fun _ => b
  if u.global then
    modify fun s =>
      let key := privateName s.className n
      match s.regions.reverse with
      | top :: others =>
        let before := (top.names.get? key).getD {}
        let top := { top with names := top.names.set key (before.or u) }
        { s with regions := (top :: others).reverse }
      | [] => s

/-- Note a declaration. -/
def declare (n : Text) (line : Nat) : Naming Unit := do
  let key := privateName (← get).className n
  onRegion fun b => { b with declared := b.declared ++ [(key, line)] }

/-- The complaint about a declaration of a name that the region has already done something with. -/
def declarationProblem? (word : String) (n : Text) (u : Uses) : Option String :=
  if u.parameter then some s!"name '{str n}' is parameter and {word}"
  else if u.used then some s!"name '{str n}' is used prior to {word} declaration"
  else if u.annotated then some s!"annotated name '{str n}' can't be {word}"
  else if u.bound then some s!"name '{str n}' is assigned to before {word} declaration"
  else none

def declareAll (word : String) (u : Uses) (line : Nat) : List Text → Naming Unit
  | [] => return ()
  | n :: rest => do
    match declarationProblem? word n (← usesIn (← region) n) with
    | some message => fail line message
    | none =>
      note n u line
      declare n line
      declareAll word u line rest

/-- Bind the target of an assignment inside a comprehension: in the first region around it that is no
comprehension, among regions of which the first is `depth` regions further out than the innermost one. -/
def bindOutside (n : Text) (line : Nat) (depth : Nat) : List OpenRegion → Naming Unit
  | [] => return ()
  | b :: rest => do
    match b.kind with
    | .comprehension _ =>
      let u ← usesIn b n
      if u.iterated then
        fail line s!"assignment expression cannot rebind comprehension iteration variable '{str n}'"
      bindOutside n line (depth + 1) rest
    | .function =>
      let u ← usesIn b n
      if u.global then note n { global := true } line else note n { nonlocal := true } line
      declare n line
      let b ← extended b n { bound := true } line
      modify fun s =>
        { s with regions := s.regions.take depth ++ b :: s.regions.drop (depth + 1) }
    | .program =>
      note n { global := true } line
      declare n line
    | .classBody =>
      fail line "assignment expression within a comprehension cannot be used in a class body"
    | .hint => bindOutside n line (depth + 1) rest

/-- The complaint about a `yield` in a comprehension. -/
def yieldProblem : Collection → String
  | .list => "'yield' inside list comprehension"
  | .set => "'yield' inside set comprehension"
  | .dict => "'yield' inside dict comprehension"
  | .generator => "'yield' inside generator expression"

/-- Some expressions cannot stand in an annotation that is not evaluated. -/
def notInHint (what : String) (line : Nat) : Naming Unit := do
  if (← region).kind = .hint then fail line s!"'{what}' can not be used within an annotation"

/-! ### Expressions -/

/-- Do something with the outer parts of what a comprehension goes through. -/
def inSource (x : Naming Unit) : Naming Unit := do
  let before := (← region).inSource
  onRegion ({ · with inSource := true })
  x
  onRegion ({ · with inSource := before })

/-- Do something with the target of a comprehension's loop. -/
def inTarget (x : Naming Unit) : Naming Unit := do
  onRegion ({ · with inTarget := true })
  x
  onRegion ({ · with inTarget := false })

def parameters (s : Signature) : Naming Unit :=
  s.all.forM fun p => note p.name { parameter := true } p.line

/-- Collect the names of an expression; `target` says that it is bound, or deleted. -/
def expr : Nat → Bool → Tree → Naming Unit
  | 0, _, _ => return ()
  | fuel + 1, target, tree => do
    let visit (e : Tree) : Naming Unit := expr fuel false e
    match tree.asExpr with
    | .name n =>
      if target then note n { bound := true } tree.line
      else if n ≠ debugName then note n { used := true } tree.line
    | .constant _ | .unknown => return ()
    | .texts _ inner => inner.forM visit
    | .tuple items | .list items => items.forM (expr fuel target)
    | .set items => items.forM visit
    | .dict entries =>
      (entries.filterMap (·.1)).forM visit
      entries.forM fun entry => visit entry.2
    | .call f arguments keywords =>
      visit f
      arguments.forM visit
      keywords.forM fun k => visit k.value
    | .member e _ => visit e
    | .index e position =>
      visit e
      visit position
    | .slice bounds => bounds.forM visit
    | .starred e => expr fuel target e
    | .choice test yes no => [test, yes, no].forM visit
    | .function signature body =>
      signature.defaults.forM visit
      inside .function do
        parameters signature
        visit body
    | .named t value =>
      notInHint "named expression" tree.line
      if (← region).inSource then
        fail tree.line
          "assignment expression cannot be used in a comprehension iterable expression"
      if (← region).kind matches .comprehension _ then
        t.name?.forM fun n => do bindOutside n t.line 0 (← get).regions
      visit value
      expr fuel true t
    | .either operands | .both operands => operands.forM visit
    | .negation e | .unary _ e => visit e
    | .binary a _ b =>
      visit a
      visit b
    | .comparison first others =>
      visit first
      others.forM fun other => visit other.2
    | .await e =>
      notInHint "await expression" tree.line
      visit e
    | .yield e? =>
      notInHint "yield expression" tree.line
      e?.forM visit
      notInComprehension tree.line
    | .yieldFrom e =>
      notInHint "yield expression" tree.line
      visit e
      notInComprehension tree.line
    | .comprehension kind element value clauses =>
      match clauses with
      | [] => return ()
      | first :: others =>
        inSource (visit first.source)
        inside (.comprehension kind) do
          inTarget (expr fuel true first.target)
          first.conditions.forM visit
          others.forM fun c => do
            inTarget (expr fuel true c.target)
            inSource (visit c.source)
            c.conditions.forM visit
          value.forM visit
          visit element
where
  notInComprehension (line : Nat) : Naming Unit := do
    match (← region).kind with
    | .comprehension c => fail line (yieldProblem c)
    | _ => return ()

/-! ### Patterns -/

def pattern : Nat → Tree → Naming Unit
  | 0, _ => return ()
  | fuel + 1, tree => do
    let bind (n : Text) : Naming Unit := note n { bound := true } tree.line
    match tree.asPattern with
    | .value e => expr fuel false e
    | .single => return ()
    | .capture n | .star n => n.forM bind
    | .renamed inner n =>
      pattern fuel inner
      bind n
    | .either patterns | .sequence patterns => patterns.forM (pattern fuel)
    | .mapping entries rest =>
      entries.forM fun entry => expr fuel false entry.1
      entries.forM fun entry => pattern fuel entry.2
      rest.forM bind
    | .object type positional keywords =>
      expr fuel false type
      positional.forM (pattern fuel)
      keywords.forM fun k => pattern fuel k.2

/-! ### Statements -/

/-- Collect the names of an annotation. -/
def hint (fuel : Nat) (e : Tree) : Naming Unit := do
  if (← get).lazy then inside .hint (expr fuel false e) else expr fuel false e

/-- The annotations of a function, in the order in which they count. -/
def hints (s : Signature) (result : Option Tree) : List Tree :=
  (s.nameless ++ s.plain ++ s.star.toList ++ s.doubleStar.toList ++ s.named).filterMap
      Parameter.hint ++ result.toList

/-- Collect the names of a function's annotations. -/
def functionHints (fuel : Nat) (s : Signature) (result : Option Tree) : Naming Unit := do
  let visit : Naming Unit := (hints s result).forM (expr fuel false)
  if (← get).lazy then inside .hint visit else visit

def importNames (names : List Imported) : Naming Unit :=
  names.forM fun i => note i.bound { imported := true } i.line

/-- Collect the names of a class inside it. -/
def inClass (name : Text) (x : Naming Unit) : Naming Unit := do
  let outer := (← get).className
  inside .classBody do
    modify ({ · with className := some name })
    x
    modify ({ · with className := outer })

/-- Collect the names of a statement. -/
def stmt : Nat → Tree → Naming Unit
  | 0, _ => return ()
  | fuel + 1, tree => do
    let visit (e : Tree) : Naming Unit := expr fuel false e
    let bind (e : Tree) : Naming Unit := expr fuel true e
    let all (trees : List Tree) : Naming Unit := trees.forM (stmt fuel)
    match tree.asStmt with
    | .evaluate e => visit e
    | .assign targets value =>
      targets.forM bind
      visit value
    | .augment target value =>
      bind target
      visit value
    | .annotate plain target type value =>
      match target.name? with
      | none => bind target
      | some n =>
        let b ← region
        let u ← usesIn b n
        if (u.global || u.nonlocal) && b.kind ≠ .program && plain then
          let word := if u.global then "global" else "nonlocal"
          fail tree.line s!"annotated name '{str n}' can't be {word}"
        if plain then note n { annotated := true, bound := true } target.line
        else if value.isSome then note n { bound := true } target.line
      hint fuel type
      value.forM visit
    | .give e? => e?.forM visit
    | .raise es => es.forM visit
    | .pass | .leave _ | .unknown => return ()
    | .delete targets => targets.forM bind
    | .assert test message =>
      visit test
      message.forM visit
    | .global names => declareAll "global" { global := true } tree.line names
    | .nonlocal names => declareAll "nonlocal" { nonlocal := true } tree.line names
    | .importing names => importNames names
    | .importingFrom _ (some names) _ => importNames names
    | .importingFrom _ none line =>
      if (← region).kind ≠ .program then fail line "import * only allowed at module level"
    | .define _ decorators name signature result body =>
      note name { bound := true } tree.stmtLine
      signature.defaults.forM visit
      functionHints fuel signature result
      decorators.forM visit
      inside .function do
        parameters signature
        all body
    | .classBody decorators name arguments keywords body =>
      note name { bound := true } tree.stmtLine
      arguments.forM visit
      keywords.forM fun k => visit k.value
      decorators.forM visit
      inClass name (all body)
    | .condition test body otherwise | .whileLoop test body otherwise =>
      visit test
      all body
      all otherwise
    | .forLoop _ target source body otherwise =>
      bind target
      visit source
      all body
      all otherwise
    | .within _ managers body =>
      managers.forM fun m => do
        visit m.e
        m.target.forM bind
      all body
    | .attempt _ body handlers otherwise final =>
      all body
      all otherwise
      handlers.forM fun h => do
        h.kind.forM visit
        h.name.forM fun n => note n { bound := true } h.line
        all h.body
      all final
    | .matching subject branches =>
      visit subject
      branches.forM fun b => do
        pattern fuel b.pattern
        b.condition.forM visit
        all b.body

end Naming

/-! ### Going through the regions -/

def declarationLine (declared : List (Text × Nat)) (n : Text) : Nat :=
  ((declared.find? fun d => d.1 = n).map Prod.snd).getD 0

/-- What is wrong with the declarations of a region; `outer` are the names that the functions around it
bind, or nothing for the program. -/
def declarationError? (declared : List (Text × Nat)) (outer : Option (List Text)) :
    Table Text Uses → Option ReadError
  | [] => none
  | (n, u) :: rest =>
    let wrong (message : String) : Option ReadError :=
      some ⟨message, declarationLine declared n, .grammar⟩
    if u.global && u.nonlocal then wrong s!"name '{str n}' is nonlocal and global"
    else if u.nonlocal && !u.global then
      match outer with
      | none => wrong "nonlocal declaration not allowed at module level"
      | some names =>
        if names.contains n then declarationError? declared outer rest
        else wrong s!"no binding for nonlocal '{str n}' found"
    else declarationError? declared outer rest

/-- The names that the regions inside a region can take from outside. -/
def visibleNames (kind : RegionKind) (outer : Option (List Text)) (names : Table Text Uses) : List Text :=
  let kept := (outer.getD []).filter fun n => !(names.get? n).any Uses.global
  match kind with
  | .classBody => "__class__".toList :: outer.getD []
  | .program => kept
  | _ =>
    kept ++ (names.filter fun (_, u) => u.binds && !u.global && !u.nonlocal).map Prod.fst

mutual

/-- What is wrong with the declarations of a region and of those inside it. -/
def Region.error? (outer : Option (List Text)) : Region → Option ReadError
  | .mk kind names declared inner =>
    (declarationError? declared outer names).or
      (Region.firstError? (some (visibleNames kind outer names)) inner)

/-- What is wrong with the declarations of regions. -/
def Region.firstError? (outer : Option (List Text)) : List Region → Option ReadError
  | [] => none
  | b :: rest => (Region.error? outer b).or (Region.firstError? outer rest)

end

/-- Check the names that `x` collects; `lazy` says whether annotations are not evaluated. -/
def checkNames (lazy : Bool) (x : Naming Unit) : Except ReadError Unit := do
  let ((), names) ← x.run { regions := [{ kind := .program }], lazy }
  match (names.regions.map OpenRegion.close).findSome? (Region.error? none) with
  | some e => throw e
  | none => return ()

end Literate.Script
