import Mathlib
import Literate.Proofs.Extraction

/-! # Regions of extension code

Lines are parted into those that pass and regions of extension code. A region begins at a fence of extension
code outside all regions and ends at the next line that closes one; the last region may be left open. Every
document has just one such `Parting` (`exists_parting`, `Parting.eq_of_lines_eq`), which can be told without
running anything.

The extractor follows it line by line (`Parting.extract_lines`): it leaves the lines that pass, and each
region comes to its code at the line that closes it (`Parting.completed_lines`). -/

namespace Literate.Extractor

variable {extensionLanguage : Text}

/-! ### Lines and regions -/

/-- Lines that pass, and regions between two fences. -/
inductive Parting (extensionLanguage : Text) : Type where
  | nil
  | pass (line : Line) (plain : line.isExtensionFence extensionLanguage = false)
      (rest : Parting extensionLanguage)
  | region (opening : Line) (fence : opening.isExtensionFence extensionLanguage = true)
      (code : List Line) (inside : ∀ line ∈ code, closes line.text = false)
      (closing : Line) (closed : closes closing.text = true) (rest : Parting extensionLanguage)
  | unclosed (opening : Line) (fence : opening.isExtensionFence extensionLanguage = true)
      (code : List Line) (inside : ∀ line ∈ code, closes line.text = false)

namespace Parting

/-- All lines in order. -/
def lines : Parting extensionLanguage → List Line
  | nil => []
  | pass line _ rest => line :: rest.lines
  | region opening _ code _ closing _ rest => opening :: (code ++ closing :: rest.lines)
  | unclosed opening _ code _ => opening :: code

/-- The lines outside all regions. -/
def passed : Parting extensionLanguage → List Line
  | nil => []
  | pass line _ rest => line :: rest.passed
  | region _ _ _ _ _ _ rest => rest.passed
  | unclosed _ _ _ _ => []

/-- For each line, if it closes a region, what stands strictly between the two fences of that region. -/
def runs : Parting extensionLanguage → List (Option Text)
  | nil => []
  | pass _ _ rest => none :: rest.runs
  | region _ _ code _ _ _ rest =>
    none :: (code.map (fun _ => none) ++ some (code.map Line.text).flatten :: rest.runs)
  | unclosed _ _ code _ => none :: code.map fun _ => none

/-- The code of each closed region. -/
def codes (p : Parting extensionLanguage) : List Text := p.runs.reduceOption

theorem codes_region (opening : Line) (fence : opening.isExtensionFence extensionLanguage = true)
    (code : List Line) (inside : ∀ line ∈ code, closes line.text = false)
    (closing : Line) (closed : closes closing.text = true) (rest : Parting extensionLanguage) :
    (region opening fence code inside closing closed rest).codes =
      (code.map Line.text).flatten :: rest.codes := by
  simp [codes, runs, List.reduceOption]

theorem codes_unclosed (opening : Line) (fence : opening.isExtensionFence extensionLanguage = true)
    (code : List Line) (inside : ∀ line ∈ code, closes line.text = false) :
    (unclosed opening fence code inside).codes = [] := by
  simp [codes, runs, List.reduceOption]

/-- The line that opens the last region, if that is not closed. -/
def unclosed? : Parting extensionLanguage → Option Line
  | nil => none
  | pass _ _ rest => rest.unclosed?
  | region _ _ _ _ _ _ rest => rest.unclosed?
  | unclosed opening _ _ _ => some opening

/-- The extractor behind all lines. -/
def last : Parting extensionLanguage → Extractor → Extractor
  | nil, x => x
  | pass _ _ rest, x => rest.last x
  | region opening _ _ _ _ _ rest, x =>
    rest.last { capture := none, opened := some opening, executed := x.executed + 1 }
  | unclosed opening _ code _, x =>
    { x with capture := some (code.map Line.text), opened := some opening }

end Parting

/-! ### There is one parting -/

theorem exists_first_closing : ∀ lines : List Line, (∀ line ∈ lines, closes line.text = false) ∨
    ∃ code closing rest, lines = code ++ closing :: rest ∧
      (∀ line ∈ code, closes line.text = false) ∧ closes closing.text = true
  | [] => .inl (by simp)
  | line :: lines => by
      cases hline : closes line.text with
      | true => exact .inr ⟨[], line, lines, rfl, by simp, hline⟩
      | false =>
          rcases exists_first_closing lines with hall | ⟨code, closing, rest, rfl, hcode, hclosing⟩
          · exact .inl (List.forall_mem_cons.2 ⟨hline, hall⟩)
          · exact .inr ⟨line :: code, closing, rest, rfl, List.forall_mem_cons.2 ⟨hline, hcode⟩,
              hclosing⟩

theorem exists_parting (extensionLanguage : Text) : ∀ lines : List Line,
    ∃ p : Parting extensionLanguage, p.lines = lines
  | [] => ⟨.nil, rfl⟩
  | line :: lines => by
      cases hline : line.isExtensionFence extensionLanguage with
      | false =>
          obtain ⟨p, rfl⟩ := exists_parting extensionLanguage lines
          exact ⟨.pass line hline p, rfl⟩
      | true =>
          rcases exists_first_closing lines with hall | ⟨code, closing, rest, hlines, hcode, hclosing⟩
          · exact ⟨.unclosed line hline lines hall, rfl⟩
          · have hlength : rest.length < lines.length := by
              rw [hlines, List.length_append, List.length_cons]
              omega
            obtain ⟨p, rfl⟩ := exists_parting extensionLanguage rest
            exact ⟨.region line hline code hcode closing hclosing p, by rw [hlines]; rfl⟩
termination_by lines => lines.length

theorem eq_of_append_closing_eq {code code' rest rest' : List Line} {closing closing' : Line}
    (inside : ∀ line ∈ code, closes line.text = false) (closed : closes closing.text = true)
    (inside' : ∀ line ∈ code', closes line.text = false) (closed' : closes closing'.text = true)
    (h : code ++ closing :: rest = code' ++ closing' :: rest') :
    code = code' ∧ closing = closing' ∧ rest = rest' := by
  induction code generalizing code' with
  | nil =>
      cases code' with
      | nil => simpa using h
      | cons line code' =>
          obtain ⟨rfl, -⟩ := List.cons.inj h
          cases closed.symm.trans (inside' closing List.mem_cons_self)
  | cons line code ih =>
      cases code' with
      | nil =>
          obtain ⟨rfl, -⟩ := List.cons.inj h
          cases closed'.symm.trans (inside line List.mem_cons_self)
      | cons line' code' =>
          obtain ⟨rfl, hcode⟩ := List.cons.inj h
          obtain ⟨rfl, hclosing, hrest⟩ := ih (List.forall_mem_cons.1 inside).2
            (List.forall_mem_cons.1 inside').2 hcode
          exact ⟨rfl, hclosing, hrest⟩

theorem Parting.eq_of_lines_eq {p q : Parting extensionLanguage} (h : p.lines = q.lines) : p = q := by
  induction p generalizing q with
  | nil =>
      cases q with
      | nil => rfl
      | _ => cases h
  | pass line plain rest ih =>
      cases q with
      | nil => cases h
      | pass line' plain' rest' =>
          obtain ⟨rfl, hrest⟩ := List.cons.inj h
          rw [ih hrest]
      | region opening fence code inside closing closed rest' =>
          obtain ⟨rfl, -⟩ := List.cons.inj h
          cases plain.symm.trans fence
      | unclosed opening fence code inside =>
          obtain ⟨rfl, -⟩ := List.cons.inj h
          cases plain.symm.trans fence
  | region opening fence code inside closing closed rest ih =>
      cases q with
      | nil => cases h
      | pass line plain rest' =>
          obtain ⟨rfl, -⟩ := List.cons.inj h
          cases plain.symm.trans fence
      | region opening' fence' code' inside' closing' closed' rest' =>
          obtain ⟨rfl, hcode⟩ := List.cons.inj h
          obtain ⟨rfl, rfl, hrest⟩ := eq_of_append_closing_eq inside closed inside' closed' hcode
          rw [ih hrest]
      | unclosed opening' fence' code' inside' =>
          obtain ⟨rfl, rfl⟩ := List.cons.inj h
          cases closed.symm.trans (inside' closing (by simp))
  | unclosed opening fence code inside =>
      cases q with
      | nil => cases h
      | pass line plain rest' =>
          obtain ⟨rfl, -⟩ := List.cons.inj h
          cases plain.symm.trans fence
      | region opening' fence' code' inside' closing' closed' rest' =>
          obtain ⟨rfl, rfl⟩ := List.cons.inj h
          cases closed'.symm.trans (inside closing' (by simp))
      | unclosed opening' fence' code' inside' =>
          obtain ⟨rfl, rfl⟩ := List.cons.inj h
          rfl

/-! ### The extractor goes along it -/

/-- For each line the code that is complete with it. -/
def completed (extensionLanguage : Text) (x : Extractor) : List Line → List (Option Text)
  | [] => []
  | line :: rest =>
    (advance extensionLanguage x line).codes.head? ::
      completed extensionLanguage (advance extensionLanguage x line).last rest

theorem toList_head?_codes (x : Extractor) (line : Line) :
    (advance extensionLanguage x line).codes.head?.toList =
      (advance extensionLanguage x line).codes := by
  unfold advance
  split
  · split <;> rfl
  · split <;> rfl

theorem advance_fence {x : Extractor} {line : Line} (hx : x.capture = none)
    (h : line.isExtensionFence extensionLanguage = true) :
    advance extensionLanguage x line =
      ⟨[], [], { x with capture := some [], opened := some line }⟩ := by
  unfold Line.isExtensionFence at h
  simp [advance, hx, h]

section
variable (extensionLanguage) {x : Extractor} {captured : List Text} {code : List Line}
  (hx : x.capture = some captured)
  (inside : ∀ line ∈ code, closes line.text = false) (rest : List Line)
include hx inside

theorem extract_code : extract extensionLanguage x (code ++ rest) =
    extract extensionLanguage { x with capture := some (captured ++ code.map Line.text) } rest := by
  induction code generalizing x captured with
  | nil => simp [← hx]
  | cons line code ih =>
      rw [List.forall_mem_cons] at inside
      rw [List.cons_append, extract, advance_code hx inside.1, ih rfl inside.2]
      simp

theorem completed_code : completed extensionLanguage x (code ++ rest) =
    code.map (fun _ => none) ++
      completed extensionLanguage { x with capture := some (captured ++ code.map Line.text) } rest := by
  induction code generalizing x captured with
  | nil => simp [← hx]
  | cons line code ih =>
      rw [List.forall_mem_cons] at inside
      rw [List.cons_append, completed, advance_code hx inside.1, ih rfl inside.2]
      simp

end

namespace Parting

theorem extract_lines (p : Parting extensionLanguage) {x : Extractor} (hx : x.capture = none) :
    extract extensionLanguage x p.lines = ⟨p.passed, p.codes, p.last x⟩ := by
  induction p generalizing x with
  | nil => rfl
  | pass line plain rest ih =>
      rw [lines, extract, advance_plain hx plain, ih hx]
      rfl
  | region opening fence code inside closing closed rest ih =>
      rw [lines, extract, advance_fence hx fence, extract_code _ rfl inside, extract,
        advance_closing rfl closed, ih rfl, codes_region]
      rfl
  | unclosed opening fence code inside =>
      have hcode := extract_code extensionLanguage
        (x := { x with capture := some [], opened := some opening }) rfl inside []
      rw [List.append_nil] at hcode
      rw [lines, extract, advance_fence hx fence, hcode, codes_unclosed]
      rfl

theorem completed_lines (p : Parting extensionLanguage) {x : Extractor} (hx : x.capture = none) :
    completed extensionLanguage x p.lines = p.runs := by
  induction p generalizing x with
  | nil => rfl
  | pass line plain rest ih =>
      rw [lines, completed, advance_plain hx plain, ih hx]
      rfl
  | region opening fence code inside closing closed rest ih =>
      rw [lines, completed, advance_fence hx fence, completed_code _ rfl inside, completed,
        advance_closing rfl closed, ih rfl]
      rfl
  | unclosed opening fence code inside =>
      have hcode := completed_code extensionLanguage
        (x := { x with capture := some [], opened := some opening }) rfl inside []
      rw [List.append_nil] at hcode
      rw [lines, completed, advance_fence hx fence, hcode]
      simp [completed, runs]

theorem executed_last (p : Parting extensionLanguage) (x : Extractor) :
    (p.last x).executed = x.executed + p.codes.length := by
  induction p generalizing x with
  | nil => rfl
  | pass line plain rest ih => exact ih x
  | region opening fence code inside closing closed rest ih =>
      rw [last, ih, codes_region, List.length_cons]
      dsimp only
      omega
  | unclosed opening fence code inside => rw [codes_unclosed, last, List.length_nil, Nat.add_zero]

/-- At the end a region is open exactly if the last one is not closed, and its first line is known. -/
theorem finish_last (p : Parting extensionLanguage) {x : Extractor} (hx : x.capture = none) :
    (p.unclosed? = none → (p.last x).finish = .ok ()) ∧
    ∀ opening, p.unclosed? = some opening →
      (p.last x).finish = .error (.ofProblem (.missingExtensionFence opening.location)) := by
  induction p generalizing x with
  | nil =>
      constructor
      · intro _
        rw [last, finish, hx]
      · intro opening h
        cases h
  | pass line plain rest ih => exact ih hx
  | region opening fence code inside closing closed rest ih => exact ih rfl
  | unclosed opening fence code inside =>
      constructor
      · intro h
        cases h
      · rintro line ⟨⟩
        rfl

end Parting

/-! ### Running the code -/

section
variable {ε : Type} {execute : Text → Run ε Unit} {x : Extractor} {c c' : ε}

/-- The lines that stay in the document. -/
def keep (execute : Text → Run ε Unit) (extensionLanguage : Text) (lines : List Line) :
    Run (Extractor × ε) (List Line) :=
  lines |> Run.collect fun line => do
    return if ← step execute extensionLanguage line then [line] else []

/-- The lines are kept that the extractor leaves, if the code that it takes out runs to its end. -/
theorem ends_keep {lines : List Line}
    (h : (forM (extract extensionLanguage x lines).codes execute).Ends c (.ok ()) c') :
    (keep execute extensionLanguage lines).Ends (x, c) (.ok (extract extensionLanguage x lines).kept)
      ((extract extensionLanguage x lines).last, c') := by
  induction lines generalizing x c with
  | nil =>
      obtain ⟨-, rfl⟩ := Run.ends_pure_iff.1 h
      exact Run.ends_pure _ _
  | cons line rest ih =>
      simp only [extract, List.forM_append] at h ⊢
      obtain ⟨u, d, hfirst, hrest⟩ := Run.ends_bind_ok.1 h
      obtain ⟨stays, hstep, hkept⟩ := ends_step hfirst
      have hline : (do
          return if ← step execute extensionLanguage line then [line] else []).Ends (x, c)
            (.ok (if stays then [line] else [])) ((advance extensionLanguage x line).last, d) :=
        hstep.bind (Run.ends_pure _ _)
      rw [← hkept]
      exact hline.bind ((ih hrest).bind (Run.ends_pure _ _))

/-- Code can fail only at a line that closes a region, and is then the code of that region. -/
theorem exists_capture_of_fails {line : Line} {fault : Fault}
    (h : (forM (advance extensionLanguage x line).codes execute).Ends c (.error fault) c') :
    ∃ captured, x.capture = some captured ∧ closes line.text = true ∧
      (execute captured.flatten).Ends c (.error fault) c' := by
  cases hcapture : x.capture with
  | none =>
      cases hfence : line.isExtensionFence extensionLanguage with
      | true =>
          rw [advance_fence hcapture hfence] at h
          cases h.1
      | false =>
          rw [advance_plain hcapture hfence] at h
          cases h.1
  | some captured =>
      cases hcloses : closes line.text with
      | false =>
          rw [advance_code hcapture hcloses] at h
          cases h.1
      | true =>
          rw [advance_closing hcapture hcloses] at h
          rcases Run.ends_bind_error.1 h with hexecute | ⟨u, d, -, h⟩
          · exact ⟨captured, rfl, rfl, hexecute⟩
          · cases h.1

theorem ends_step_error {line : Line} {fault : Fault} {captured : List Text}
    (hcapture : x.capture = some captured) (hcloses : closes line.text = true)
    (h : (execute captured.flatten).Ends c (.error fault) c') :
    (step execute extensionLanguage line).Ends (x, c) (.error fault)
      ({ x with capture := none }, c') := by
  unfold step
  simp only [Run.ends_get_bind, hcapture, hcloses]
  have hclose : (update fun x : Extractor => { x with capture := none }).Ends (x, c) (.ok ())
      ({ x with capture := none }, c) := ⟨rfl, rfl⟩
  exact hclose.bind h.onSecond.bind_error

/-- All that a line can do to the extractor and the context. -/
theorem of_ends_step {line : Line} {x' : Extractor} {r : Except Fault Bool}
    (h : (step execute extensionLanguage line).Ends (x, c) r (x', c')) :
    (∃ stays, r = .ok stays ∧ x' = (advance extensionLanguage x line).last ∧
      (if stays then [line] else []) = (advance extensionLanguage x line).kept ∧
      (forM (advance extensionLanguage x line).codes execute).Ends c (.ok ()) c') ∨
    ∃ fault captured, r = .error fault ∧ x.capture = some captured ∧ closes line.text = true ∧
      (execute captured.flatten).Ends c (.error fault) c' := by
  rcases (forM (advance extensionLanguage x line).codes execute).ends_cases c with
    ⟨u, d, hcodes⟩ | ⟨fault, d, hcodes⟩
  · obtain ⟨stays, hstep, hkept⟩ := ends_step hcodes
    obtain ⟨rfl, heq⟩ := hstep.unique h
    cases heq
    exact .inl ⟨stays, rfl, rfl, hkept, hcodes⟩
  · obtain ⟨captured, hcapture, hcloses, hexecute⟩ := exists_capture_of_fails hcodes
    obtain ⟨rfl, heq⟩ := (ends_step_error hcapture hcloses hexecute).unique h
    cases heq
    exact .inr ⟨fault, captured, rfl, hcapture, hcloses, hexecute⟩

end

end Literate.Extractor
