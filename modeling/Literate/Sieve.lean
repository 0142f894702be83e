import Literate.Condition
import Literate.Extractor

/-! # Which lines reach the blocks

One pass over a document, line by line: the conditions decide whether a line is kept, and the kept
lines go through the extractor, which takes extension code out and runs it. So code in a branch that
is not taken never runs, and a block has run before any condition on a later line is evaluated. -/

namespace Literate

/-- How conditions and extension code are run on a context. -/
structure Evaluator (ε : Type) where
  evaluate : Text → Run ε Bool
  execute : Text → Run ε Unit

/-- The conditions, the extractor and the context of a pass. -/
structure Sieve (ε : Type) where
  conditions : Conditions := {}
  extractor : Extractor := {}
  context : ε

namespace Sieve

variable {ε : Type}

/-- Take in one line: whether it is kept. -/
def step (evaluator : Evaluator ε) (extensionLanguage : Text) (line : Line) :
    Run (Sieve ε) Bool := do
  let kept ← (Conditions.step evaluator.evaluate line).zoom
    (fun s => (s.conditions, s.context)) (fun p s => { s with conditions := p.1, context := p.2 })
  if kept then
    (Extractor.step evaluator.execute extensionLanguage line).zoom
      (fun s => (s.extractor, s.context)) (fun p s => { s with extractor := p.1, context := p.2 })
  else return false

/-- The lines that are kept. -/
def keep (evaluator : Evaluator ε) (extensionLanguage : Text) (lines : List Line) :
    Run (Sieve ε) (List Line) :=
  lines |> Run.collect fun line => do
    return if ← step evaluator extensionLanguage line then [line] else []

/-- The lines that are kept of a whole document. -/
def pass (evaluator : Evaluator ε) (extensionLanguage : Text) (lines : List Line) :
    Run (Sieve ε) (List Line) := do
  let kept ← keep evaluator extensionLanguage lines
  let s ← Run.get
  Run.ofExcept s.extractor.finish
  Run.ofExcept s.conditions.checkBalance
  Run.progress 2
    s!"Kept {kept.length} of {lines.length} lines, ran {s.extractor.executed} extension blocks"
  return kept

/-- A pass that starts afresh on a context. -/
def select (evaluator : Evaluator ε) (extensionLanguage : Text) (lines : List Line) :
    Run ε (List Line) :=
  (pass evaluator extensionLanguage lines).zoom (fun context => { context })
    (fun s _ => s.context)

end Sieve
end Literate
