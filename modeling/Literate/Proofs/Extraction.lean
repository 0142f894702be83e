import Mathlib
import Literate.Sieve
import Literate.Proofs.Branches
import Literate.Proofs.Fences

/-! # Extension code taken out

The extractor as a function of the lines: which of them stay, the extension code that the others hold,
and where it is left at the end (`Extractor.extract`). In a document without conditions the sieve keeps
just the lines that stay, if the code runs to its end (`Sieve.ends_keep`); it fails only if extension
code is open at the end (`Sieve.result_select`). -/

namespace Literate

open Text

/-- A fence of extension code. -/
def Line.isExtensionFence (extensionLanguage : Text) (line : Line) : Bool :=
  (Fence.Header.parse? extensionLanguage line.text).any Fence.Header.isExtension

namespace Extractor

/-- What lines come to in the extractor: those that stay, the extension code they hold, and the
extractor after them. -/
structure Extraction where
  kept : List Line
  codes : List Text
  last : Extractor

/-- Take in one line. -/
def advance (extensionLanguage : Text) (x : Extractor) (line : Line) : Extraction :=
  match x.capture with
  | none =>
    if (Fence.Header.parse? extensionLanguage line.text).any Fence.Header.isExtension then
      ⟨[], [], { x with capture := some [], opened := some line }⟩
    else ⟨[line], [], x⟩
  | some captured =>
    if closes line.text then
      ⟨[], [captured.flatten], { x with capture := none, executed := x.executed + 1 }⟩
    else ⟨[], [], { x with capture := some (captured ++ [line.text]) }⟩

/-- Take in lines one after the other. -/
def extract (extensionLanguage : Text) (x : Extractor) : List Line → Extraction
  | [] => ⟨[], [], x⟩
  | line :: rest =>
    let first := advance extensionLanguage x line
    let others := extract extensionLanguage first.last rest
    ⟨first.kept ++ others.kept, first.codes ++ others.codes, others.last⟩

variable {extensionLanguage : Text} {line : Line} {x : Extractor}

theorem closes_of_fence {header : Fence.Header}
    (h : Fence.Header.parse? extensionLanguage line.text = some header) :
    closes line.text = true := by
  obtain ⟨indent, rest, hindent, htext, -⟩ := Fence.Header.parse?_eq_some_iff.1 h
  have hstrip : stripStart line.text = Fence.marker ++ rest := by
    rw [htext]
    exact List.dropWhile_append_of_pos fun c hc => isBlank_of_isIndent (hindent c hc)
  unfold closes
  rw [hstrip]
  rfl

theorem advance_opening {header : Fence.Header} (hx : x.capture = none)
    (h : Fence.Header.parse? extensionLanguage line.text = some header)
    (hextension : header.isExtension = true) :
    advance extensionLanguage x line =
      ⟨[], [], { x with capture := some [], opened := some line }⟩ := by
  simp [advance, hx, h, hextension]

theorem advance_plain (hx : x.capture = none)
    (h : (Fence.Header.parse? extensionLanguage line.text).any Fence.Header.isExtension = false) :
    advance extensionLanguage x line = ⟨[line], [], x⟩ := by
  simp [advance, hx, h]

theorem advance_closing {captured : List Text} (hx : x.capture = some captured)
    (h : closes line.text = true) :
    advance extensionLanguage x line =
      ⟨[], [captured.flatten], { x with capture := none, executed := x.executed + 1 }⟩ := by
  simp [advance, hx, h]

theorem advance_code {captured : List Text} (hx : x.capture = some captured)
    (h : closes line.text = false) :
    advance extensionLanguage x line =
      ⟨[], [], { x with capture := some (captured ++ [line.text]) }⟩ := by
  simp [advance, hx, h]

/-- The extractor does what `advance` says, and runs the code that is complete. -/
theorem ends_step {ε : Type} {execute : Text → Run ε Unit} {c c' : ε}
    (h : (forM (advance extensionLanguage x line).codes execute).Ends c (.ok ()) c') :
    ∃ stays, (step execute extensionLanguage line).Ends (x, c) (.ok stays)
        ((advance extensionLanguage x line).last, c') ∧
      (if stays then [line] else []) = (advance extensionLanguage x line).kept := by
  unfold step
  simp only [Run.ends_get_bind]
  cases hcapture : x.capture with
  | none =>
      cases hheader : Fence.Header.parse? extensionLanguage line.text with
      | none =>
          rw [advance_plain hcapture (by simp [hheader])] at h ⊢
          obtain ⟨-, rfl⟩ := Run.ends_pure_iff.1 h
          exact ⟨true, Run.ends_pure _ _, rfl⟩
      | some header =>
          cases hextension : header.isExtension with
          | true =>
              rw [advance_opening hcapture hheader hextension] at h ⊢
              obtain ⟨-, rfl⟩ := Run.ends_pure_iff.1 h
              refine ⟨false, ?_, rfl⟩
              simp only [hextension]
              exact ⟨rfl, rfl⟩
          | false =>
              rw [advance_plain hcapture (by simp [hheader, hextension])] at h ⊢
              obtain ⟨-, rfl⟩ := Run.ends_pure_iff.1 h
              refine ⟨true, ?_, rfl⟩
              simp only [hextension]
              exact Run.ends_pure _ _
  | some captured =>
      cases hcloses : closes line.text with
      | true =>
          rw [advance_closing hcapture hcloses] at h ⊢
          obtain ⟨u, d, hexecute, h⟩ := Run.ends_bind_ok.1 h
          obtain ⟨-, rfl⟩ := Run.ends_pure_iff.1 h
          have hclose : (update fun x : Extractor => { x with capture := none }).Ends (x, c) (.ok ())
              ({ x with capture := none }, c) := ⟨rfl, rfl⟩
          exact ⟨false, hclose.bind (hexecute.onSecond.bind ⟨rfl, rfl⟩), rfl⟩
      | false =>
          rw [advance_code hcapture hcloses] at h ⊢
          obtain ⟨-, rfl⟩ := Run.ends_pure_iff.1 h
          exact ⟨false, ⟨rfl, rfl⟩, rfl⟩

end Extractor

namespace Sieve

open Extractor

variable {ε : Type} {evaluator : Evaluator ε} {extensionLanguage : Text} {x : Extractor} {c c' : ε}

theorem ends_step_ordinary {line : Line} {stays : Bool} {x' : Extractor}
    (hline : line.mark = .ordinary)
    (h : (Extractor.step evaluator.execute extensionLanguage line).Ends (x, c) (.ok stays) (x', c')) :
    (step evaluator extensionLanguage line).Ends ⟨{}, x, c⟩ (.ok stays) ⟨{}, x', c'⟩ := by
  have hcondition : (Conditions.step evaluator.evaluate line).Ends ({}, c) (.ok true) ({}, c) :=
    (Conditions.Step.ordinary hline).ends
  have hfirst := hcondition.zoom (fun s : Sieve ε => (s.conditions, s.context))
    (fun p s => { s with conditions := p.1, context := p.2 }) ⟨{}, x, c⟩
  have hsecond := h.zoom (fun s : Sieve ε => (s.extractor, s.context))
    (fun p s => { s with extractor := p.1, context := p.2 }) ⟨{}, x, c⟩
  exact hfirst.bind hsecond

/-- In a document without conditions the lines are kept that the extractor leaves, if the code that it
takes out runs to its end. -/
theorem ends_keep {lines : List Line} (hlines : ∀ line ∈ lines, line.mark = .ordinary)
    (h : (forM (extract extensionLanguage x lines).codes evaluator.execute).Ends c (.ok ()) c') :
    (keep evaluator extensionLanguage lines).Ends ⟨{}, x, c⟩
      (.ok (extract extensionLanguage x lines).kept)
      ⟨{}, (extract extensionLanguage x lines).last, c'⟩ := by
  induction lines generalizing x c with
  | nil =>
      obtain ⟨-, rfl⟩ := Run.ends_pure_iff.1 h
      exact Run.ends_pure _ _
  | cons line rest ih =>
      rw [List.forall_mem_cons] at hlines
      simp only [extract, List.forM_append] at h ⊢
      obtain ⟨u, d, hfirst, hrest⟩ := Run.ends_bind_ok.1 h
      obtain ⟨stays, hstep, hkept⟩ := Extractor.ends_step hfirst
      have hline : (do
          return if ← step evaluator extensionLanguage line then [line] else []).Ends ⟨{}, x, c⟩
            (.ok (if stays then [line] else []))
            ⟨{}, (advance extensionLanguage x line).last, d⟩ :=
        (ends_step_ordinary hlines.1 hstep).bind (Run.ends_pure _ _)
      rw [← hkept]
      exact hline.bind ((ih hlines.2 hrest).bind (Run.ends_pure _ _))

theorem result_select {lines : List Line} (hlines : ∀ line ∈ lines, line.mark = .ordinary)
    (h : (forM (extract extensionLanguage {} lines).codes evaluator.execute).Ends c (.ok ()) c') :
    ((select evaluator extensionLanguage lines).run c).result = (do
      (extract extensionLanguage {} lines).last.finish
      return (extract extensionLanguage {} lines).kept) := by
  have hkeep := ends_keep hlines h
  have hpass : ((pass evaluator extensionLanguage lines).run { context := c }).result = (do
      (extract extensionLanguage {} lines).last.finish
      return (extract extensionLanguage {} lines).kept) := by
    unfold pass
    rw [Run.result_bind, hkeep.1, hkeep.2]
    simp only [Run.result_bind, Run.result_ofExcept]
    rfl
  exact hpass

end Sieve

end Literate
