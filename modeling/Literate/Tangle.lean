import Literate.Block
import Literate.Expansion
import Literate.Include
import Literate.Output
import Literate.Sieve

/-! # Tangling

The way from a document to its program: includes are resolved, conditions and extension code are
handled, blocks are assembled, the hook adjusts them, references are expanded and escapes removed. How
extension code, the hook and the filters run is left to an engine. A tangler keeps what has come of its
document, so that it can be written later. -/

namespace Literate

/-- The language of extension code, as far as tangling needs it. A context is of type `ε`, what the hook
leaves of the blocks is of type `α`, and the lines of a body are items of type `ι`. -/
structure Engine (ε ι α : Type) extends Evaluator ε where
  /-- Let extension code adjust the assembled blocks. -/
  adjust : Block.Bodies → Run ε α
  /-- The body of the root, if there is one. -/
  root? : ε → α → Option (Body ε ι)
  /-- Where references are looked up. -/
  scope : α → Scope ε ι
  unescape : Delimiters → ι → ι
  /-- The lines of a root that is there but has not been expanded. -/
  lines : ε → α → Except Failure (List ι)
  /-- The text of a line in a file, or why it cannot be written. -/
  written : ε → ι → Except Failure Text

/-- What is known of the root of a document. -/
inductive Root (ι α : Type) where
  /-- There is none, or it has not been reached. -/
  | absent
  /-- As the hook left it. -/
  | adjusted (assembly : α)
  /-- Completely expanded. -/
  | expanded (lines : List ι)

namespace Root

variable {ε ι α : Type}

/-- The root as the hook leaves it. -/
def ofHook (engine : Engine ε ι α) (c : ε) (assembly : α) : Root ι α :=
  if (engine.root? c assembly).isSome then adjusted assembly else absent

/-- The root after a run that has ended in a result. -/
def ofResult : Option (List ι) → Root ι α
  | some lines => expanded lines
  | none => absent

/-- The texts that a root is written as; there are none if it is absent. What cannot be gone through
cannot be written either. -/
def texts? (engine : Engine ε ι α) (c : ε) : Root ι α → Option (List (Except Failure Text))
  | absent => none
  | adjusted assembly =>
    match engine.lines c assembly with
    | .ok lines => some (lines.map (engine.written c))
    | .error failure => some [.error failure]
  | expanded lines => some (lines.map (engine.written c))

end Root

/-- A document to be tangled, the context it runs in, and what has come of it. -/
structure Tangler (ε ι α : Type) where
  input : Path
  context : ε
  search : Search := {}
  root : Root ι α := .absent
  assembly : Option α := none
  tangled : Bool := false

namespace Tangler

variable {ε ι α β : Type}

def inContext (x : Run ε β) : Run (Tangler ε ι α) β :=
  x.zoom Tangler.context fun context t => { t with context }

def inSearch (x : Run Search β) : Run (Tangler ε ι α) β :=
  x.zoom Tangler.search fun search t => { t with search }

/-! ### Stages -/

/-- The lines of the document, its includes resolved. -/
def resolve (settings : Settings) (stack : Nat) (tree : FileTree) :
    Run (Tangler ε ι α) (List Line) := do
  let input := (← Run.get).input
  let lines ← inSearch (Include.resolveFile settings stack tree input)
  let count := (← Run.get).search.records.length
  Run.progress 2 s!"Resolved {count} includes, {lines.length} lines"
  return lines

/-- The lines that reach the blocks. -/
def sift (evaluator : Evaluator ε) (settings : Settings) (stack : Nat) (tree : FileTree) :
    Run (Tangler ε ι α) (List Line) := do
  let lines ← resolve settings stack tree
  inContext (Sieve.select evaluator settings.extensionLanguage lines)

/-- Say which blocks there are. -/
def announce {σ : Type} (bodies : Block.Bodies) : Run σ Unit :=
  let found := if bodies.root.isSome then "found" else "absent"
  Run.progress 2 s!"Assembled {bodies.named.length} named blocks, root block {found}"

/-- The bodies of the blocks that lines hold. -/
def assemble {σ : Type} (settings : Settings) (lines : List Line) : Run σ Block.Bodies := do
  let bodies ← Run.ofExcept (Block.assemble settings.extensionLanguage lines)
  announce bodies
  return bodies

/-- The document as it is written down: the bodies of its blocks. -/
def read (evaluator : Evaluator ε) (settings : Settings) (stack : Nat) (tree : FileTree) :
    Run (Tangler ε ι α) Block.Bodies := do
  let lines ← sift evaluator settings stack tree
  assemble settings lines

/-- Let the hook adjust the blocks. -/
def adjust (engine : Engine ε ι α) (bodies : Block.Bodies) : Run (Tangler ε ι α) α :=
  inContext (engine.adjust bodies)

/-- Keep what the hook has left. -/
def keepRoot (engine : Engine ε ι α) (assembly : α) (t : Tangler ε ι α) : Tangler ε ι α :=
  { t with assembly := some assembly, root := .ofHook engine t.context assembly }

/-- Keep what has come of the document. -/
def keepResult (result : Option (List ι)) (t : Tangler ε ι α) : Tangler ε ι α :=
  { t with root := .ofResult result, tangled := true }

/-- The lines of the root, completely expanded and without escapes. -/
def expand (engine : Engine ε ι α) (settings : Settings) (stack : Nat) (assembly : α) :
    Run ε (Option (List ι)) := do
  match engine.root? (← Run.get) assembly with
  | none => return none
  | some body =>
    let lines ← Expansion.expand settings stack (engine.scope assembly) body
    return some (lines.map (engine.unescape settings.delimiters))

/-- Expand the root that the hook has left. Until that is done it is kept as it was left. -/
def finish (engine : Engine ε ι α) (settings : Settings) (stack : Nat) (assembly : α) :
    Run (Tangler ε ι α) (Option (List ι)) := do
  Run.modify (keepRoot engine assembly)
  let result ← inContext (expand engine settings stack assembly)
  Run.modify (keepResult result)
  return result

/-- The stages behind the assembly of the blocks. -/
def complete (engine : Engine ε ι α) (settings : Settings) (stack : Nat) (bodies : Block.Bodies) :
    Run (Tangler ε ι α) (Option (List ι)) := do
  let assembly ← adjust engine bodies
  finish engine settings stack assembly

/-- All stages, one after the other. -/
def process (engine : Engine ε ι α) (settings : Settings) (stack : Nat) (tree : FileTree) :
    Run (Tangler ε ι α) (Option (List ι)) := do
  let bodies ← read engine.toEvaluator settings stack tree
  complete engine settings stack bodies

/-- Tangle the document: the lines of its root, or nothing if it has none. Room for the bounds is made
once for all stages, and again inside, one call further on, for the two that are bounded. -/
def tangle (engine : Engine ε ι α) (settings : Settings) (stack : Nat) (tree : FileTree) :
    Run (Tangler ε ι α) (Option (List ι)) := do
  Run.progress 1 s!"Tangling {(← Run.get).input}"
  (process engine settings (stack + 1) tree).withRoom settings stack

/-- Tangle the document: the texts that its lines are written as. -/
def product (engine : Engine ε ι α) (settings : Settings) (stack : Nat) (tree : FileTree) :
    Run (Tangler ε ι α) (Option (List (Except Failure Text))) := do
  let lines ← tangle engine settings stack tree
  let c := (← Run.get).context
  return lines.map (·.map (engine.written c))

/-! ### Writing -/

/-- Write the root as it is known; nothing is written if there is none. -/
def emit (engine : Engine ε ι α) (path : Path) : Run (Tangler ε ι α × FileTree) Bool := do
  let (t, _) ← Run.get
  match t.root.texts? engine t.context with
  | none =>
    Run.progress 1 s!"No output block in {t.input}, nothing written"
    return false
  | some texts =>
    (writeTexts path texts).onSecond
    return true

/-- Write the root to a file; the document is tangled first if that has not been done. -/
def write (engine : Engine ε ι α) (settings : Settings) (stack : Nat) (path : Path) :
    Run (Tangler ε ι α × FileTree) Bool := do
  let (t, tree) ← Run.get
  unless t.tangled do
    let _ ← (tangle engine settings (stack + 1) tree).onFirst
  emit engine path

end Tangler
end Literate
