import Mathlib
import Literate.Proofs.Reordering
import Literate.Proofs.Tours

/-! # The lines that reach the blocks

Before blocks are assembled, a document goes through three readers that each know lines of their own:
includes are resolved, conditions are followed, and extension code is taken out. What is left is a part of
the resolved lines, in order, without a directive of any kind and without a fence of extension code
(`kept_lines_clean`). One step of the sieve keeps a line only if none of the readers claims it
(`Sieve.passes_of_ends_step`), wherever the line stands: in a block, in an included file, behind extension
code or after a branch that is not taken. So a whole pass keeps only such lines.

Grouping has a branch for extension code all the same. No run of tangling takes it: with any other code in
its place (`Block.assembleWith`), tangling is the same run. -/

namespace Literate

/-! ### What a reader leaves -/

theorem Include.Tour.isInclude_eq_false {tree : FileTree} {maxDepth depth : Int} {file : Path}
    {read result : Except Fault (List Line)} {visits : List Visit}
    (h : Tour tree maxDepth depth file read visits result) :
    ∀ out, result = .ok out → ∀ line ∈ out, line.isInclude = false := by
  induction h with
  | unreadable fault => exact fun _ hout => by cases hout
  | tooDeep hdepth => exact fun _ hout => by cases hout
  | finished hdepth =>
      rintro _ ⟨⟩ line hline
      cases hline
  | @kept _ _ line _ _ result hdepth hline hrest ih =>
      intro out hout
      cases result with
      | error fault => cases hout
      | ok rest =>
          cases hout
          exact List.forall_mem_cons.2 ⟨hline, ih rest rfl⟩
  | noted hdepth hline hrest ih => exact ih
  | lost hdepth hline => exact fun _ hout => by cases hout
  | stopped hdepth hline hinner => exact fun _ hout => by cases hout
  | @through _ _ _ _ _ inner _ _ _ _ result hdepth hline hinner hrest ihinner ihrest =>
      intro out hout
      cases result with
      | error fault => cases hout
      | ok rest =>
          cases hout
          exact List.forall_mem_append.2 ⟨ihinner inner rfl, ihrest rest rfl⟩

/-- A line that no condition and no include claims holds no directive. -/
theorem Line.parse?_eq_none {line : Line} (hmark : line.mark = .ordinary)
    (hinclude : line.isInclude = false) : Directive.parse? line.text = none := by
  unfold Line.mark at hmark
  unfold Line.isInclude at hinclude
  cases hdirective : Directive.parse? line.text with
  | none => rfl
  | some directive =>
      rw [hdirective] at hmark hinclude
      cases directive with
      | includeFile path description => cases hinclude
      | includePath directory => cases hinclude
      | _ => cases hmark

theorem Conditions.mark_of_ends_step {ε : Type} {evaluate : Text → Run ε Bool} {line : Line}
    {s s' : Conditions × ε} (h : (step evaluate line).Ends s (.ok true) s') :
    line.mark = .ordinary := by
  cases ends_step_iff.1 h with
  | ordinary mark => exact mark

theorem Extractor.isExtensionFence_of_ends_step {ε : Type} {execute : Text → Run ε Unit}
    {extensionLanguage : Text} {line : Line} {s s' : Extractor × ε}
    (h : (step execute extensionLanguage line).Ends s (.ok true) s') :
    line.isExtensionFence extensionLanguage = false := by
  unfold step at h
  rw [Run.ends_get_bind] at h
  unfold Line.isExtensionFence
  cases hcapture : s.1.capture with
  | none =>
      simp only [hcapture] at h
      cases hheader : Fence.Header.parse? extensionLanguage line.text with
      | none => rfl
      | some header =>
          simp only [hheader] at h
          cases hextension : header.isExtension with
          | false => simpa using hextension
          | true =>
              rw [if_pos hextension] at h
              cases h.1
  | some captured =>
      simp only [hcapture] at h
      split at h
      · obtain ⟨-, s₁, -, h⟩ := Run.ends_bind_ok.1 h
        obtain ⟨-, s₂, -, h⟩ := Run.ends_bind_ok.1 h
        obtain ⟨-, s₃, -, h⟩ := Run.ends_bind_ok.1 h
        cases h.1
      · obtain ⟨-, s₁, -, h⟩ := Run.ends_bind_ok.1 h
        cases h.1

/-! ### What all of them leave -/

namespace Sieve

variable {ε : Type} {evaluator : Evaluator ε} {extensionLanguage : Text} {line : Line}
  {lines kept : List Line}

/-- Neither a condition nor a fence of extension code. -/
structure Passes (extensionLanguage : Text) (line : Line) : Prop where
  mark : line.mark = .ordinary
  fence : line.isExtensionFence extensionLanguage = false

theorem passes_of_ends_step {s s' : Sieve ε}
    (h : (step evaluator extensionLanguage line).Ends s (.ok true) s') :
    Passes extensionLanguage line := by
  obtain ⟨kept, t, hcondition, h⟩ := Run.ends_bind_ok.1 h
  cases kept with
  | false => cases h.1
  | true =>
      exact ⟨Conditions.mark_of_ends_step ⟨hcondition.1, rfl⟩,
        Extractor.isExtensionFence_of_ends_step ⟨h.1, rfl⟩⟩

theorem of_ends_keep : ∀ {lines kept : List Line} {s s' : Sieve ε},
    (keep evaluator extensionLanguage lines).Ends s (.ok kept) s' →
    kept.Sublist lines ∧ ∀ line ∈ kept, Passes extensionLanguage line
  | [], kept, s, s', h => by
      cases h.1
      exact ⟨.slnil, by simp⟩
  | line :: lines, kept, s, s', h => by
      obtain ⟨first, t, hfirst, h⟩ := Run.ends_bind_ok.1 h
      obtain ⟨others, t', hothers, h⟩ := Run.ends_bind_ok.1 h
      cases h.1
      obtain ⟨hsub, hpasses⟩ := of_ends_keep hothers
      obtain ⟨b, t, hstep, hfirst⟩ := Run.ends_bind_ok.1 hfirst
      cases hfirst.1
      cases b with
      | false => exact ⟨hsub.cons line, hpasses⟩
      | true =>
          exact ⟨hsub.cons_cons line, List.forall_mem_cons.2 ⟨passes_of_ends_step hstep, hpasses⟩⟩

theorem of_result_select {c : ε}
    (h : ((select evaluator extensionLanguage lines).run c).result = .ok kept) :
    kept.Sublist lines ∧ ∀ line ∈ kept, Passes extensionLanguage line := by
  have hpass : (pass evaluator extensionLanguage lines).Ends { context := c } (.ok kept) _ := ⟨h, rfl⟩
  obtain ⟨kept', s, hkeep, h⟩ := Run.ends_bind_ok.1 hpass
  rw [Run.ends_get_bind] at h
  obtain ⟨-, s₁, -, h⟩ := Run.ends_bind_ok.1 h
  obtain ⟨-, s₂, -, h⟩ := Run.ends_bind_ok.1 h
  cases h.1
  exact of_ends_keep hkeep

end Sieve

/-! ### The branch for extension code -/

theorem Fragment.Cut.isExtension_eq_false {extensionLanguage : Text} {lines : List Line}
    {fragments : List Fragment} (h : Cut extensionLanguage lines fragments)
    (hlines : ∀ line ∈ lines, line.isExtensionFence extensionLanguage = false) :
    ∀ fragment ∈ fragments, fragment.header.isExtension = false := by
  induction h with
  | prose plain => simp
  | @fragment before code after opening closing header other fragments prose opens plain closes next ih =>
      have hopening : header.isExtension = false := by
        have h := hlines opening (by simp)
        unfold Line.isExtensionFence at h
        rw [opens] at h
        exact h
      exact List.forall_mem_cons.2 ⟨hopening, ih fun line hline => hlines line (by simp [hline])⟩

namespace Block

/-- Add a fragment to the blocks, with extension code left to `branch`. -/
def addWith (branch : Table Text Block → Fragment → Except Fault (Table Text Block))
    (blocks : Table Text Block) (fragment : Fragment) : Except Fault (Table Text Block) :=
  if fragment.header.isExtension then branch blocks fragment else add blocks fragment

/-- The bodies of the blocks of a document, with extension code left to `branch`. -/
def assembleWith (branch : Table Text Block → Fragment → Except Fault (Table Text Block))
    (extensionLanguage : Text) (lines : List Line) : Except Fault Bodies := do
  return bodies (← (← Fragment.collect extensionLanguage lines).foldlM (addWith branch) [])

variable {branch : Table Text Block → Fragment → Except Fault (Table Text Block)}

theorem foldlM_addWith : ∀ {fragments : List Fragment} (blocks : Table Text Block),
    (∀ fragment ∈ fragments, fragment.header.isExtension = false) →
    fragments.foldlM (addWith branch) blocks = fragments.foldlM add blocks
  | [], _, _ => rfl
  | fragment :: rest, blocks, h => by
      rw [List.forall_mem_cons] at h
      have hadd : addWith branch blocks fragment = add blocks fragment := if_neg (by simp [h.1])
      rw [List.foldlM_cons, List.foldlM_cons, hadd]
      exact bind_congr fun blocks' => foldlM_addWith blocks' h.2

theorem assembleWith_eq {extensionLanguage : Text} {lines : List Line}
    (h : ∀ line ∈ lines, line.isExtensionFence extensionLanguage = false) :
    assembleWith branch extensionLanguage lines = assemble extensionLanguage lines := by
  unfold assembleWith assemble
  cases hcollect : Fragment.collect extensionLanguage lines with
  | error fault => rfl
  | ok fragments =>
      have hfragments := (Fragment.collect_eq_ok_iff.1 hcollect).isExtension_eq_false h
      show (fragments.foldlM (addWith branch) [] >>= fun blocks => pure (bodies blocks)) =
        group fragments >>= fun blocks => pure (bodies blocks)
      rw [foldlM_addWith [] hfragments]
      rfl

end Block

namespace Tangler

variable {ε ι α : Type}

/-- Tangle the document, with its blocks assembled by `assembler`. -/
def tangleBy (assembler : List Line → Except Fault Block.Bodies) (engine : Engine ε ι α)
    (settings : Settings) (stack : Nat) (tree : FileTree) : Run (Tangler ε ι α) (Option (List ι)) := do
  Run.progress 1 s!"Tangling {(← Run.get).input}"
  let stages := do
    let kept ← sift engine.toEvaluator settings (stack + 1) tree
    let bodies ← Run.ofExcept (assembler kept)
    announce bodies
    complete engine settings (stack + 1) bodies
  stages.withRoom settings stack

theorem tangle_eq_tangleBy (engine : Engine ε ι α) (settings : Settings) (stack : Nat)
    (tree : FileTree) : tangle engine settings stack tree =
      tangleBy (Block.assemble settings.extensionLanguage) engine settings stack tree := by
  simp only [tangle, tangleBy, process, complete, read, assemble, bind_assoc, pure_bind]

theorem isExtensionFence_of_ends_sift {evaluator : Evaluator ε} {settings : Settings} {stack : Nat}
    {tree : FileTree} {t t' : Tangler ε ι α} {kept : List Line}
    (h : (sift evaluator settings stack tree).Ends t (.ok kept) t') :
    ∀ line ∈ kept, line.isExtensionFence settings.extensionLanguage = false := by
  obtain ⟨lines, t₁, -, h⟩ := Run.ends_bind_ok.1 h
  exact fun line hline => ((Sieve.of_result_select h.1).2 line hline).fence

end Tangler

/-! ### The document as a whole -/

/-- **What reaches the blocks is clean.** When the includes of a document have been resolved and its
conditions and extension code handled, the lines that are kept are some of the resolved ones, in order. None
of them holds a directive, and none is a fence of extension code, so that tangling never comes to the branch
for extension code: it is the same run whatever is done there. -/
theorem kept_lines_clean {ε ι α : Type} {settings : Settings} {stack : Nat} {tree : FileTree}
    {file : Path} {s : Search} {resolved kept : List Line} {evaluator : Evaluator ε}
    {extensionLanguage : Text} {c : ε}
    (hresolved : ((Include.resolveFile settings stack tree file).run s).result = .ok resolved)
    (hkept : ((Sieve.select evaluator extensionLanguage resolved).run c).result = .ok kept) :
    kept.Sublist resolved ∧
    (∀ line ∈ kept, Directive.parse? line.text = none) ∧
    (∀ line ∈ kept, ∀ header, Fence.Header.parse? extensionLanguage line.text = some header →
      header.isExtension = false) ∧
    ∀ branch (engine : Engine ε ι α) settings stack tree,
      Tangler.tangleBy (Block.assembleWith branch settings.extensionLanguage) engine settings stack tree =
        Tangler.tangle engine settings stack tree := by
  obtain ⟨-, hends⟩ := Include.ends_resolveFile_ok.1 ⟨hresolved, rfl⟩
  obtain ⟨visits, htour, -, -⟩ := Include.exists_tour_of_ends hends
  have hinclude := htour.isInclude_eq_false resolved rfl
  obtain ⟨hsub, hpasses⟩ := Sieve.of_result_select hkept
  refine ⟨hsub, fun line hline => ?_, fun line hline header hheader => ?_,
    fun branch engine settings stack tree => ?_⟩
  · exact Line.parse?_eq_none (hpasses line hline).mark (hinclude line (hsub.subset hline))
  · have hfence := (hpasses line hline).fence
    unfold Line.isExtensionFence at hfence
    rw [hheader] at hfence
    exact hfence
  · rw [Tangler.tangle_eq_tangleBy]
    refine bind_congr fun t => bind_congr fun _ => congrArg (Run.withRoom settings stack) ?_
    refine Run.bind_congr_of_ends fun t kept t' hsift => ?_
    rw [Block.assembleWith_eq (Tangler.isExtensionFence_of_ends_sift hsift)]

/-- Extension code in a branch that is not taken, a condition and an include within extension code, and both
within a block, where the included file names a directory: three lines are left. -/
theorem kept_lines_clean_nested :
    let file : Path := ⟨0, [['a']]⟩
    let text := ("! if False\n``` python !\nfail(\n```\n! end\n" ++
      "``` python !\nx = 1\n! if False\n! include [](p)\n! end\n```\n" ++
      "``` py\n! if x == 1\n! include [](p)\n! end\n```\n").toList
    let included := "! include-path q\nw\n".toList
    let tree : FileTree := ⟨[({ names := [['a']] }, .file (some text)),
      ({ names := [['p']] }, .file (some included))]⟩
    let lines := Line.ofFile file text
    let word := (Line.ofFile ⟨0, [['p']]⟩ included).drop 1
    let resolved := lines.take 8 ++ word ++ (lines.drop 9).take 4 ++ word ++ lines.drop 14
    let kept := (lines.drop 11).take 1 ++ word ++ lines.drop 15
    let engine := Script.engine {}
    ((Include.resolveFile {} 9 tree file).run {}).result = .ok resolved ∧
    ((Sieve.select engine.toEvaluator "python".toList resolved).run (Script.Context.fresh [])).result =
      .ok kept ∧
    kept.map Line.text = ["``` py\n".toList, "w\n".toList, "```\n".toList] ∧
    (∀ line ∈ kept, Directive.parse? line.text = none) ∧
    Tangler.tangleBy (Block.assembleWith (fun _ _ => .ok []) "python".toList) engine {} 9 tree =
      Tangler.tangle engine {} 9 tree := by
  intro file text included tree lines word resolved kept engine
  have hresolved : ((Include.resolveFile {} 9 tree file).run {}).result = .ok resolved := by
    decide +kernel
  have hkept : ((Sieve.select engine.toEvaluator "python".toList resolved).run
      (Script.Context.fresh [])).result = .ok kept := by
    decide +kernel
  obtain ⟨-, hdirective, -, htangle⟩ := kept_lines_clean hresolved hkept
  exact ⟨hresolved, hkept, by decide +kernel, hdirective, htangle _ engine {} 9 tree⟩

end Literate
