import Literate.Reference
import Literate.Room

/-! # Expansion of references

A line with references is replaced by the lines of the blocks they name, which are expanded and
filtered first. The first line of a block takes the place of the reference; the others start new lines
with the indentation of the line that holds the reference. A line whose references all expand to
nothing, and which holds nothing else, disappears. Blocks may refer to each other in a cycle, so the
nesting is bounded. A complete expansion makes room for the bound before it starts, so a bound that is
too large for the machine is a failure even where nothing nests. -/

namespace Literate

open Text

/-- The body of a block: lines of its own, or lines that an action may change while they are expanded.
Lines are items of a type `β`, usually texts; extension code may have put something else among them. -/
inductive Body (σ β : Type) where
  | fixed (lines : List β)
  /-- How many lines there are now, the line at a position, if there is one now, and how many lines
  there can ever be. -/
  | shared (size : Run σ Nat) (line? : Nat → Run σ (Option β)) (limit : Nat)

namespace Body

variable {σ β : Type}

/-- How many lines a body has now. -/
def size : Body σ β → Run σ Nat
  | fixed lines => pure lines.length
  | shared size _ _ => size

/-- The failure of a body that has grown beyond what can be held. -/
def outgrown : Failure := .raised .memory ""

/-- Do an action for every line of a shared body from a position on, as long as lines are added no
further than `room` lines ahead. -/
def collectFrom {α : Type} (line? : Nat → Run σ (Option β)) (f : β → Run σ (List α)) (room position : Nat) :
    Run σ (List α) := do
  match ← line? position with
  | none => pure []
  | some line =>
    match room with
    | 0 => Run.failure outgrown
    | room + 1 =>
      let first ← f line
      let others ← collectFrom line? f room (position + 1)
      pure (first ++ others)

/-- Do an action for every line of a body and put the resulting lists one after the other. -/
def collect {α : Type} (f : β → Run σ (List α)) : Body σ β → Run σ (List α)
  | fixed lines => Run.collect f lines
  | shared _ line? limit => collectFrom line? f limit 0

end Body

/-- Where references are looked up. -/
structure Scope (σ β : Type) where
  /-- The body of a block. -/
  body? : Text → Run σ (Option (Body σ β))
  /-- The text of an item of a body; there is none for an item that stays what it is. -/
  line? : β → Run σ (Option Text)
  /-- The item of an expanded line. -/
  ofText : Text → β
  /-- The lines that a chain of filters makes of items. -/
  filter : List Text → List β → Run σ (List Text)

namespace Expansion

variable {σ β : Type}

/-- A part of a line after expansion: a literal span or the lines of a reference. -/
inductive Piece where
  | literal (t : Text)
  | lines (body : List Text)
deriving DecidableEq

/-- Put a piece behind what a line has become so far: finished lines and the line in progress. -/
def Piece.put (indent : Text) (done : List Text × Text) : Piece → List Text × Text
  | literal t => (done.1, done.2 ++ t)
  | lines [] => done
  | lines (first :: rest) =>
    let all := (done.2 ++ first) :: rest.map (indent ++ ·)
    (done.1 ++ all.dropLast, all.getLastD [])

/-- Whether a piece is a reference that expanded to something. -/
def Piece.produces : Piece → Bool
  | literal _ => false
  | lines body => !body.isEmpty

/-- The lines that the pieces of a line form. -/
def splice (indent : Text) (pieces : List Piece) : List Text :=
  let (done, last) := pieces.foldl (Piece.put indent) ([], indent)
  if !pieces.any Piece.produces && (strip last).isEmpty then [] else done ++ [last]

/-- Expand one segment of a line; `inner` expands the body of a block. -/
def expandSegment (scope : Scope σ β) (inner : Body σ β → Run σ (List β)) (line : Text) :
    Segment → Run σ Piece
  | .literal t => pure (.literal t)
  | .reference r => do
    match ← scope.body? r.name with
    | none => Run.problem (.unknownBlock r.name (strip line))
    | some body => return .lines (← scope.filter r.filters (← inner body))

/-- Expand one line. -/
def expandLine (d : Delimiters) (scope : Scope σ β) (inner : Body σ β → Run σ (List β))
    (line : Text) : Run σ (List Text) := do
  let indent := line.takeWhile isIndent
  let segments := Segment.tokenize d (line.dropWhile isIndent)
  if segments.any fun s => s.reference?.isSome then
    return splice indent (← segments.mapM (expandSegment scope inner line))
  else return [line]

/-- A problem on a line is reported with the line. -/
def onLine (line : Text) (fault : Fault) : Fault :=
  if fault.isProblem then fault.under (.lineFailed (stripEnd line)) else fault

/-- Expand a body at a depth; `budget` is how much deeper references may lead, plus one. -/
def expandBody (d : Delimiters) (scope : Scope σ β) : Nat → Int → Body σ β → Run σ (List β)
  | 0, depth, _ => Run.problem (.expansionTooDeep depth)
  | budget + 1, depth, body => do
    let count ← body.size
    Run.progress 3 s!"Expanding {count} lines at depth {depth}"
    body.collect fun item => do
      match ← scope.line? item with
      | none => return [item]
      | some line =>
        let lines ←
          (expandLine d scope (expandBody d scope budget (depth + 1)) line).mapFault (onLine line)
        return lines.map scope.ofText

/-- How much deeper references may lead from a depth, plus one. -/
def budget (maxDepth depth : Int) : Nat := (maxDepth + 1 - depth).toNat

/-- Expand a body at a depth within a bound. -/
def bodyAt (d : Delimiters) (scope : Scope σ β) (maxDepth depth : Int) (body : Body σ β) :
    Run σ (List β) :=
  expandBody d scope (budget maxDepth depth) depth body

/-- Expand one line at a depth within a bound. -/
def lineAt (d : Delimiters) (scope : Scope σ β) (maxDepth depth : Int) (line : Text) :
    Run σ (List Text) :=
  expandLine d scope (bodyAt d scope maxDepth (depth + 1)) line

/-- Expand the body of a block completely, where `stack` calls have begun. -/
def expand (settings : Settings) (stack : Nat) (scope : Scope σ β) (body : Body σ β) :
    Run σ (List β) :=
  (bodyAt settings.delimiters scope settings.maxMacroDepth 0 body).withRoom settings stack

end Expansion

/-- Take the escape away from protected delimiters. -/
def Delimiters.unescape (d : Delimiters) (line : Text) : Text :=
  replaceAll (d.escape ++ d.closing) d.closing (replaceAll (d.escape ++ d.opening) d.opening line)

end Literate
