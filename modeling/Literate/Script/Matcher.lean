import Literate.Script.Grammar
import Literate.Script.Template

/-! # Matching tokens against the grammar

Alternatives are tried in order and the first that matches counts. What some rules match at a place is
remembered, which makes it possible for a rule to start with itself: its match is grown from the
shortest one until it stops getting longer.

Matching takes a fuel that the number of tokens bounds; `Source.matchRule` provides enough of it. -/

namespace Literate.Script

/-- Why matching stops before it is decided. -/
inductive Stop where
  /-- The tokens end in something that cannot be read. -/
  | broken (b : Breakage)
  /-- The program has a mistake; so many tokens had been looked at. -/
  | mistake (e : ReadError) (seen : Nat)
  /-- Too many steps are open. -/
  | tooDeep

/-- What matching remembers. -/
structure Memory where
  /-- How many tokens have been looked at. -/
  seen : Nat := 0
  /-- The remarks on them, and on what stands inside texts. -/
  remarks : List Remark := []
  /-- For each place what rules have matched there: a tree and the place behind it. -/
  known : Array (List (Rule × Option (Tree × Nat)))

abbrev Matching := ExceptT Stop (StateM Memory)

/-- What is matched. -/
structure Source where
  tokens : Array Token
  /-- What the errors begin with, those of the tokens apart. -/
  label : String
  /-- Read texts that follow each other: the trees inside them. -/
  texts : Moment → List Tree → Read (List Tree)

/-- The result of trying an alternative. -/
inductive Attempt where
  | matched (tree : Tree) (place : Nat)
  /-- No match; `committed` says that no other alternative counts. -/
  | failed (committed : Bool)

/-- The token at a place; behind the last one there is the end of the program. -/
def Source.tokenAt (source : Source) (place : Nat) : Token :=
  source.tokens.getD place { kind := .finish, line := 0 }

namespace Matching

variable (source : Source)

/-- Look at the token at a place. -/
def peek (place : Nat) : Matching Token := fun memory =>
  let token := source.tokenAt place
  if place < memory.seen then (.ok token, memory)
  else
    match token.kind with
    | .broken b => (.error (.broken b), memory)
    | _ =>
      let remarks := memory.remarks ++ token.remark?.toList
      (.ok token, { memory with seen := place + 1, remarks })

/-- What a rule is known to match at a place. -/
def remembered? (r : Rule) (place : Nat) : Matching (Option (Option (Tree × Nat))) := fun memory =>
  let found := (memory.known.getD place []).find? fun entry => entry.1 = r
  (.ok (found.map (·.2)), memory)

def remember (r : Rule) (place : Nat) (found : Option (Tree × Nat)) : Matching Unit := fun memory =>
  let known := memory.known.modify place fun entries =>
    (r, found) :: entries.filter fun entry => entry.1 ≠ r
  (.ok (), { memory with known })

/-- Where matching stands; `place` is behind the last token that was matched. -/
def moment (place : Nat) : Matching Moment := fun memory =>
  (.ok ⟨(source.tokenAt (memory.seen - 1)).line, (source.tokenAt (place - 1)).level⟩, memory)

/-- Stop because of a mistake that is reported as it is. -/
def stopWith (e : ReadError) : Matching α := fun memory => (.error (.mistake e memory.seen), memory)

def stop (e : ReadError) : Matching α := stopWith (e.behind source.label)

/-- Go on with the value of a reading; its error is reported as it is. -/
def included (x : Read α) : Matching α := fun memory =>
  let memory := { memory with remarks := memory.remarks ++ x.remarks }
  match x.result with
  | .ok a => (.ok a, memory)
  | .error e => stopWith e memory

def token (accepts : Token → Bool) (place : Nat) : Matching (Option (List Tree × Nat)) := do
  let found ← peek source place
  return if accepts found then some ([.token found], place + 1) else none

/-- The tree of an alternative without an end of its own. -/
def plainTree (line : Nat) : List Tree → Tree
  | [tree] => tree
  | trees => .node .other line trees

/-- Stop because too many steps are open. -/
def tooDeep : Matching α := throw .tooDeep

/-- How many steps may be open: rules that are being matched, and groups and repetitions in them. -/
def stepLimit : Nat := 6000

def step (level : Nat) (x : Nat → Matching α) : Matching α :=
  if level < stepLimit then x (level + 1) else tooDeep

/-- Open a step for alternatives that need one: a single item that stands alone is no group. -/
def groupStep (level : Nat) (alternatives : List (List Item)) (x : Nat → Matching α) : Matching α :=
  match alternatives with
  | [[_]] => x level
  | _ => step level x

def single (found : Option (Tree × Nat)) : Option (List Tree × Nat) :=
  found.map fun (tree, behind) => ([tree], behind)

mutual

/-- Match an item: its trees and the place behind it. `mistakes` says whether rules for mistakes are
tried; `level` is how many steps are open. -/
def item (mistakes : Bool) : Nat → Nat → Item → Nat → Matching (Option (List Tree × Nat))
  | 0, _, _, _ => tooDeep
  | fuel + 1, level, i, place =>
    match i with
    | .word s => token source (·.isWord s) place
    | .soft s => token source (·.isName s) place
    | .one t => token source (t.accepts ·) place
    | .rule r => single <$> rule mistakes fuel level r place
    | .mistake r => if mistakes then single <$> rule mistakes fuel level r place else return none
    | .choice alternatives =>
      groupStep level alternatives fun level => single <$> choose mistakes fuel level alternatives place
    | .maybe alternatives => do
      match ← groupStep level alternatives fun level => choose mistakes fuel level alternatives place with
      | some (tree, behind) => return some ([.run [tree]], behind)
      | none => return some ([.run []], place)
    | .each i => do
      let (trees, behind) ← step level fun level => repeated mistakes fuel level i place
      return some ([.run trees], behind)
    | .several i => do
      let (trees, behind) ← step level fun level => repeated mistakes fuel level i place
      return if trees.isEmpty then none else some ([.run trees], behind)
    | .joined divider i =>
      step level fun level => do
        match ← item mistakes fuel level i place with
        | none => return none
        | some (first, behind) =>
          let (trees, behind) ← step level fun level => further mistakes fuel level divider i behind
          return some ([.run (first ++ trees)], behind)
    | .ahead i => do
      return (← item mistakes fuel level i place).map fun _ => ([], place)
    | .notAhead i => do
      return if (← item mistakes fuel level i place).isSome then none else some ([], place)
    | .forced s => do
      let found ← peek source place
      if found.isWord s then return some ([.token found], place + 1)
      else stop source ⟨s!"expected '{s}'", found.line, .grammar⟩
    | .commit | .verify _ | .readTexts | .pick _ | .build _ | .complain _ => return some ([], place)
termination_by structural fuel => fuel

def repeated (mistakes : Bool) : Nat → Nat → Item → Nat → Matching (List Tree × Nat)
  | 0, _, _, _ => tooDeep
  | fuel + 1, level, i, place => do
    match ← item mistakes fuel level i place with
    | none => return ([], place)
    | some (trees, behind) =>
      let (more, behind) ← repeated mistakes fuel level i behind
      return (trees ++ more, behind)
termination_by structural fuel => fuel

/-- Match an item behind a divider as often as possible. -/
def further (mistakes : Bool) : Nat → Nat → Item → Item → Nat → Matching (List Tree × Nat)
  | 0, _, _, _, _ => tooDeep
  | fuel + 1, level, divider, i, place => do
    match ← item mistakes fuel level divider place with
    | none => return ([], place)
    | some (_, next) =>
      match ← item mistakes fuel level i next with
      | none => return ([], place)
      | some (trees, behind) =>
        let (more, behind) ← further mistakes fuel level divider i behind
        return (trees ++ more, behind)
termination_by structural fuel => fuel

/-- Match the items of an alternative that starts at `start`, with the trees before them in reverse. -/
def sequence (mistakes : Bool) (start : Nat) :
    Nat → Nat → List Item → Nat → List Tree → Bool → Matching Attempt
  | 0, _, _, _, _, _ => tooDeep
  | _, _, [], place, trees, _ =>
    return .matched (plainTree (source.tokenAt start).line trees.reverse) place
  | fuel + 1, level, i :: rest, place, trees, committed => do
    match i with
    | .commit => sequence mistakes start fuel level rest place trees true
    | .pick n =>
      let line := (source.tokenAt start).line
      return .matched ((trees.reverse[n]?).getD (.node .other line [])) place
    | .build shape =>
      return .matched (.node shape (source.tokenAt start).line trees.reverse) place
    | .verify complaint =>
      match complaint (← moment source place) trees.reverse with
      | some e => stop source e
      | none => sequence mistakes start fuel level rest place trees committed
    | .readTexts =>
      let found ← included (source.texts (← moment source place) trees.reverse)
      sequence mistakes start fuel level rest place (.run found :: trees) committed
    | .complain complaint =>
      match complaint (← moment source place) trees.reverse with
      | some e => stop source e
      | none => return .failed true
    | i =>
      match ← item mistakes fuel level i place with
      | none => return .failed committed
      | some (found, behind) =>
        sequence mistakes start fuel level rest behind (found.reverse ++ trees) committed
termination_by structural fuel => fuel

def choose (mistakes : Bool) : Nat → Nat → List (List Item) → Nat → Matching (Option (Tree × Nat))
  | 0, _, _, _ => tooDeep
  | _, _, [], _ => return none
  | fuel + 1, level, items :: rest, place => do
    match ← sequence mistakes place fuel level items place [] false with
    | .matched tree behind => return some (tree, behind)
    | .failed true => return none
    | .failed false => choose mistakes fuel level rest place
termination_by structural fuel => fuel

def rule (mistakes : Bool) : Nat → Nat → Rule → Nat → Matching (Option (Tree × Nat))
  | 0, _, _, _ => tooDeep
  | fuel + 1, level, r, place =>
    step level fun level => do
      if !r.isRemembered then
        choose (mistakes && r ≠ .plainExpression) fuel level r.alternatives place
      else
        let _ ← peek source place
        match ← remembered? r place with
        | some found => return found
        | none =>
          if r.startsWithItself then
            remember r place none
            step level fun level => grow mistakes fuel level r place none
          else
            let found ← choose mistakes fuel level r.alternatives place
            remember r place found
            return found
termination_by structural fuel => fuel

/-- Grow the match of a rule that starts with itself, given the longest match so far. -/
def grow (mistakes : Bool) :
    Nat → Nat → Rule → Nat → Option (Tree × Nat) → Matching (Option (Tree × Nat))
  | 0, _, _, _, _ => tooDeep
  | fuel + 1, level, r, place, best => do
    match ← choose mistakes fuel level r.alternatives place with
    | some (tree, behind) =>
      if behind ≤ best.elim place (·.2) then return best
      else
        remember r place (some (tree, behind))
        grow mistakes fuel level r place (some (tree, behind))
    | none => return best
termination_by structural fuel => fuel

end

end Matching

namespace Source

/-- A rule matched against all tokens, given what was looked at before: the tree, or why matching
stopped, and what it remembers. -/
def matchRule (source : Source) (mistakes : Bool) (before : Memory) (r : Rule) :
    Except Stop (Option Tree) × Memory :=
  let memory := { before with known := Array.replicate (source.tokens.size + 1) [] }
  let fuel := 400 * source.tokens.size + 400
  let (found, memory) := (Matching.rule source mistakes fuel 0 r 0).run memory
  (found.map fun tree? => tree?.map (·.1), memory)

def brokenError (source : Source) (b : Breakage) : ReadError :=
  if b.certain then b.error else b.error.behind source.label

/-- The error that stands instead of another one, after which reading had got to a token: one that the
tokens behind it end in, or a bracket from an earlier line that is never closed. -/
def furtherError (source : Source) (seen : Nat) (e : ReadError) : ReadError :=
  match source.tokens.back? with
  | some last =>
    match last.kind with
    | .broken b =>
      if b.certain then b.error
      else
        match b.opened with
        | some (c, line) =>
          if line < (source.tokenAt (seen - 1)).line then
            ReadError.behind source.label ⟨s!"'{c}' was never closed", line, .grammar⟩
          else e
        | none => e
    | _ => e
  | none => e

/-- Fail after a look at all tokens, given the memory of those that have been looked at. -/
def fail (source : Source) (memory : Memory) (e : ReadError) : Read Tree :=
  ⟨.error e, memory.remarks ++ (source.tokens.toList.drop memory.seen).filterMap Token.remark?⟩

def stopped (source : Source) (memory : Memory) : Stop → Read Tree
  | .broken b => source.fail memory (source.brokenError b)
  | .mistake e seen =>
    source.fail memory (if (source.tokenAt (seen - 1)).atEnd then e else source.furtherError seen e)
  | .tooDeep => ⟨.error ⟨"", 0, .memory⟩, memory.remarks⟩

/-- Read a source by a rule. A source that does not match is matched once more with the rules for
mistakes; if none of them explains it, the furthest token of the first time is wrong. An error makes all
tokens be looked at, but not if it is about indentation that nothing asked for. -/
def read (source : Source) (r : Rule) : Read Tree :=
  match source.matchRule false { known := #[] } r with
  | (.ok (some tree), memory) => ⟨.ok tree, memory.remarks⟩
  | (.error stop, memory) => source.stopped memory stop
  | (.ok none, memory) =>
    let last := source.tokenAt (memory.seen - 1)
    match source.matchRule true memory r with
    | (.error stop, memory) => source.stopped memory stop
    | (.ok _, memory) =>
      let here := (source.tokenAt (memory.seen - 1)).line
      let unasked (message : String) : Read Tree :=
        ⟨.error (ReadError.behind source.label ⟨message, here, .indentation⟩), memory.remarks⟩
      match last.kind with
      | .indent => unasked "unexpected indent"
      | .dedent => unasked "unexpected unindent"
      | _ =>
        let unexplained : ReadError := ⟨"invalid syntax", last.line, .grammar⟩
        source.fail memory (source.furtherError memory.seen (unexplained.behind source.label))

end Source

/-! ### Texts with expressions inside them -/

/-- What the errors in an expression inside a text begin with. -/
def templateLabel : String := "f-string: "

/-- Read texts that follow each other. Expressions inside them are sources of their own, whose texts may
have expressions again; quotes keep that from going deeper than `depth`. -/
def readTexts : Nat → String → Moment → List Tree → Read (List Tree)
  | depth, label, moment, trees =>
    let error (message : String) : ReadError := ReadError.behind label ⟨message, moment.line, .grammar⟩
    let expression : Nat → Text → Read Tree :=
      match depth with
      | 0 => fun _ _ => Read.fail (error "expressions nested too deeply")
      | depth + 1 => fun above t =>
        let tokens := (tokenize true above t).toArray
        Source.read ⟨tokens, templateLabel, readTexts depth templateLabel⟩ .template
    textTrees error expression none (Tree.itemsIn trees)

/-- How deep texts can stand inside each other: there are four kinds of quotes. -/
def quoteDepth : Nat := 4

def readTokens (tokens : Array Token) (r : Rule) : Read Tree :=
  Source.read ⟨tokens, "", readTexts quoteDepth ""⟩ r

end Literate.Script
