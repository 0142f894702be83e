import Mathlib
import Literate.Extension
import Literate.Proofs.Extraction
import Literate.Proofs.Weaving

/-! # Validation

A document is checked before it is woven, and again when it is read for tangling. The check for weaving
pairs up all of the fences. Reading takes extension code out first, with a rule of its own for where it
ends, and pairs up the fences that are left.

The two readings go side by side as long as they agree on what a line is (`Aligned`): no block is closed
by a fence of extension code, and no line within extension code closes it without being a fence. Then
the fragments of the lines that are left are the fragments of all the lines but for extension code
(`Fragment.agree_extract`), and weaving fails if and only if reading fails, with a fault of the
same kind (`Weaver.weave_fails_iff_read`), whatever the extension code is written in. Where they are not
aligned, each of the two may fail alone (`Weaver.weave_or_read_fails_alone`). -/

namespace Literate

open Text

/-! ### Two readings side by side -/

/-- The extractor agrees with the fences about every line: the fence that closes a block opens no
extension code, and extension code is closed by nothing but a fence. The index is the header of the
fragment that is open. -/
inductive Aligned (extensionLanguage : Text) : Option Fence.Header → List Line → Prop
  | nil {current : Option Fence.Header} : Aligned extensionLanguage current []
  | prose {line : Line} {rest : List Line}
      (noFence : Fence.Header.parse? extensionLanguage line.text = none)
      (next : Aligned extensionLanguage none rest) : Aligned extensionLanguage none (line :: rest)
  | opening {line : Line} {rest : List Line} {header : Fence.Header}
      (fence : Fence.Header.parse? extensionLanguage line.text = some header)
      (next : Aligned extensionLanguage (some header) rest) :
      Aligned extensionLanguage none (line :: rest)
  | code {line : Line} {rest : List Line} {opened : Fence.Header}
      (noFence : Fence.Header.parse? extensionLanguage line.text = none)
      (stays : opened.isExtension = true → Extractor.closes line.text = false)
      (next : Aligned extensionLanguage (some opened) rest) :
      Aligned extensionLanguage (some opened) (line :: rest)
  | closing {line : Line} {rest : List Line} {opened header : Fence.Header}
      (fence : Fence.Header.parse? extensionLanguage line.text = some header)
      (plain : opened.isExtension = false → header.isExtension = false)
      (next : Aligned extensionLanguage none rest) :
      Aligned extensionLanguage (some opened) (line :: rest)

/-- The extractor, the fragment that is open among all the lines, and the one that is open among the
lines that are kept. -/
inductive InStep : Extractor → Option Fragment → Option Fragment → Prop
  | outside {x : Extractor} (idle : x.capture = none) : InStep x none none
  | block {x : Extractor} {fragment : Fragment} (idle : x.capture = none)
      (plain : fragment.header.isExtension = false) : InStep x (some fragment) (some fragment)
  | extension {x : Extractor} {fragment : Fragment} {captured : List Text}
      (busy : x.capture = some captured) (opened : x.opened = some fragment.opened)
      (isExtension : fragment.header.isExtension = true) : InStep x (some fragment) none

namespace Fragment

open Extractor

variable {extensionLanguage : Text}

/-- The fragments without extension code. -/
def blocksOnly (fragments : List Fragment) : List Fragment :=
  fragments.filter fun fragment => !fragment.header.isExtension

/-- Collecting the lines that are kept and collecting all of them come to the same: the one gives the
fragments of the other but for extension code, or extension code is open at the end for both. -/
def Agree (last : Extractor) (kept all : Except Fault (List Fragment)) : Prop :=
  (last.finish = .ok () ∧ kept = blocksOnly <$> all) ∨
    ∃ location, last.finish = .error (.ofProblem (.missingExtensionFence location)) ∧
      all = .error (.ofProblem (.missingFence location))

section

variable {last : Extractor} {kept all : Except Fault (List Fragment)} {fragment : Fragment}

theorem Agree.block (h : Agree last kept all) (hfragment : fragment.header.isExtension = false) :
    Agree last (do return fragment :: (← kept)) (do return fragment :: (← all)) := by
  rcases h with ⟨hfinish, rfl⟩ | ⟨location, hfinish, rfl⟩
  · refine .inl ⟨hfinish, ?_⟩
    cases all with
    | error fault => rfl
    | ok fragments =>
        have hfilter : blocksOnly (fragment :: fragments) = fragment :: blocksOnly fragments :=
          List.filter_cons_of_pos (by simp [hfragment])
        exact congrArg Except.ok hfilter.symm
  · exact .inr ⟨location, hfinish, rfl⟩

theorem Agree.extension (h : Agree last kept all) (hfragment : fragment.header.isExtension = true) :
    Agree last kept (do return fragment :: (← all)) := by
  rcases h with ⟨hfinish, rfl⟩ | ⟨location, hfinish, rfl⟩
  · refine .inl ⟨hfinish, ?_⟩
    cases all with
    | error fault => rfl
    | ok fragments =>
        have hfilter : blocksOnly (fragment :: fragments) = blocksOnly fragments :=
          List.filter_cons_of_neg (by simp [hfragment])
        exact congrArg Except.ok hfilter.symm
  · exact .inr ⟨location, hfinish, rfl⟩

end

theorem agree_extract {lines : List Line} {x : Extractor} {current kept : Option Fragment}
    {opened : Option Fence.Header} (haligned : Aligned extensionLanguage opened lines)
    (hopened : current.map Fragment.header = opened) (hstep : InStep x current kept) :
    Agree (extract extensionLanguage x lines).last
      (collectFrom extensionLanguage kept (extract extensionLanguage x lines).kept)
      (collectFrom extensionLanguage current lines) := by
  induction haligned generalizing x current kept with
  | nil =>
      cases hstep with
      | outside idle =>
          refine .inl ⟨?_, rfl⟩
          simp [extract, finish, idle]
      | block idle plain =>
          refine .inl ⟨?_, rfl⟩
          simp [extract, finish, idle]
      | @extension fragment captured busy opened isExtension =>
          refine .inr ⟨fragment.opened.location, ?_, rfl⟩
          simp [extract, finish, busy, opened]
  | prose noFence next ih =>
      cases hstep with
      | outside idle =>
          rw [extract, advance_plain idle (by simp [noFence]), List.singleton_append,
            collectFrom_plain none noFence, collectFrom_plain none noFence]
          exact ih rfl (.outside idle)
      | block idle plain => cases hopened
      | extension busy opened isExtension => cases hopened
  | @opening line rest header fence next ih =>
      cases hstep with
      | outside idle =>
          rw [collectFrom_opening fence]
          cases hextension : header.isExtension with
          | true =>
              rw [extract, advance_opening idle fence hextension, List.nil_append]
              exact ih rfl (.extension rfl rfl hextension)
          | false =>
              rw [extract, advance_plain idle (by simp [fence, hextension]), List.singleton_append,
                collectFrom_opening fence]
              exact ih rfl (.block idle hextension)
      | block idle plain => cases hopened
      | extension busy opened isExtension => cases hopened
  | code noFence stays next ih =>
      cases hstep with
      | outside idle => cases hopened
      | block idle plain =>
          rw [extract, advance_plain idle (by simp [noFence]), List.singleton_append,
            collectFrom_plain _ noFence, collectFrom_plain _ noFence]
          exact ih hopened (.block idle plain)
      | extension busy opened isExtension =>
          obtain rfl := Option.some.inj hopened
          rw [extract, advance_code busy (stays isExtension), List.nil_append,
            collectFrom_plain _ noFence]
          exact ih rfl (.extension rfl opened isExtension)
  | closing fence plain next ih =>
      cases hstep with
      | outside idle => cases hopened
      | block idle hplain =>
          obtain rfl := Option.some.inj hopened
          rw [extract, advance_plain idle (by simp [fence, plain hplain]), List.singleton_append,
            collectFrom_closing fence, collectFrom_closing fence]
          exact (ih rfl (.outside idle)).block hplain
      | extension busy opened isExtension =>
          rw [extract, advance_closing busy (closes_of_fence fence), List.nil_append,
            collectFrom_closing fence]
          exact (ih rfl (.outside rfl)).extension isExtension

end Fragment

theorem Block.group_blocksOnly (fragments : List Fragment) :
    group (Fragment.blocksOnly fragments) = group fragments := by
  have hadd : (fun blocks fragment => if !fragment.header.isExtension then add blocks fragment
      else pure blocks) = add := by
    funext blocks fragment
    cases hextension : fragment.header.isExtension with
    | true => simp [add, hextension, pure, Except.pure]
    | false => rfl
  unfold group Fragment.blocksOnly
  rw [List.foldlM_filter, hadd]

/-! ### Failing alike -/

/-- The kind of the fault that a result is. -/
def Result.faultKind? {α : Type} : Except Fault α → Option Kind
  | .ok _ => none
  | .error fault => some fault.kind

theorem Result.faultKind?_eq_some_iff {α : Type} {r : Except Fault α} {kind : Kind} :
    faultKind? r = some kind ↔ ∃ fault, r = .error fault ∧ fault.kind = kind := by
  cases r <;> simp [faultKind?]

theorem Result.faultKind?_map {α β : Type} (f : α → β) (r : Except Fault α) :
    faultKind? (f <$> r) = faultKind? r := by
  cases r <;> rfl

namespace Tangler

variable {ε ι α : Type} {evaluator : Evaluator ε} {settings : Settings} {stack : Nat} {tree : FileTree}

theorem result_assemble {σ : Type} (settings : Settings) (lines : List Line) (s : σ) :
    ((assemble settings lines).run s).result = Block.assemble settings.extensionLanguage lines := by
  unfold assemble
  rw [Run.result_bind, Run.result_ofExcept]
  cases Block.assemble settings.extensionLanguage lines <;> rfl

/-- A document can be read if its includes resolve, its lines can be sifted, its fences balance and its
blocks keep to one language each. -/
theorem result_read (evaluator : Evaluator ε) (hfits : settings.Fits stack) (t : Tangler ε ι α)
    {lines : List Line} (hlines : Include.readLines tree t.input = .ok lines) :
    ((read evaluator settings stack tree).run t).result = (do
      let resolved ←
        ((Include.resolve tree settings.maxIncludeDepth t.input 0 lines).run t.search).result
      let kept ← ((Sieve.select evaluator settings.extensionLanguage resolved).run t.context).result
      Block.assemble settings.extensionLanguage kept) := by
  have hresolve : Include.resolveFile settings stack tree t.input =
      Include.resolve tree settings.maxIncludeDepth t.input 0 lines := by
    rw [Include.resolveFile_of_fits hfits, Include.resolveWithin, hlines]
    exact pure_bind _ _
  unfold read sift resolve
  simp only [Run.result_bind, result_assemble, bind_assoc]
  rw [← hresolve]
  rfl

theorem result_read_of_not_fits (evaluator : Evaluator ε) (hfits : ¬settings.Fits stack)
    (tree : FileTree) (t : Tangler ε ι α) :
    ((read evaluator settings stack tree).run t).result = .error (.ofFailure noRoom) := by
  unfold read sift resolve
  simp only [Include.resolveFile_of_not_fits hfits, Run.result_bind]
  rfl

end Tangler

/-- What a document asks of the context it is read in, its includes resolved: it has no conditions, its
extension code runs to its end, and its two readings are aligned. -/
structure Suits {ε : Type} (evaluator : Evaluator ε) (extensionLanguage : Text) (c : ε)
    (resolved : List Line) : Prop where
  unconditional : ∀ line ∈ resolved, line.mark = .ordinary
  executes : ((forM (Extractor.extract extensionLanguage {} resolved).codes evaluator.execute).run
    c).result = .ok ()
  aligned : Aligned extensionLanguage none resolved

/-- The lines that are kept make the blocks that all the lines make, or extension code is open at the
end for both readings. -/
theorem Suits.assemble_cases {ε : Type} {evaluator : Evaluator ε} {extensionLanguage : Text} {c : ε}
    {resolved : List Line} (h : Suits evaluator extensionLanguage c resolved) :
    let read := do
      let kept ← ((Sieve.select evaluator extensionLanguage resolved).run c).result
      Block.assemble extensionLanguage kept
    read = Block.assemble extensionLanguage resolved ∨
    ∃ location, read = .error (.ofProblem (.missingExtensionFence location)) ∧
      Block.assemble extensionLanguage resolved = .error (.ofProblem (.missingFence location)) := by
  dsimp only
  rw [Sieve.result_select h.unconditional ⟨h.executes, rfl⟩]
  unfold Block.assemble Fragment.collect
  have hstep : InStep {} none none := .outside rfl
  rcases Fragment.agree_extract h.aligned rfl hstep with
    ⟨hfinish, hcollect⟩ | ⟨location, hfinish, hcollect⟩
  · left
    rw [hfinish]
    change (do return Block.bodies (← Block.group (← Fragment.collectFrom _ none _))) = _
    rw [hcollect, bind_map_left]
    simp only [Block.group_blocksOnly]
  · right
    refine ⟨location, ?_, ?_⟩
    · rw [hfinish]
      rfl
    · rw [hcollect]
      rfl

namespace Weaver

variable {ε ι α : Type}

/-- **A document is woven if and only if it can be read.** Weaving a file whose extension code runs, that
has no conditions and whose two readings are aligned fails with a fault of some kind, structural or
other, if and only if the stages of tangling up to the assembly of the blocks do. The two may be called
from different places, if room for the settings can be made at both or at neither. -/
theorem weave_fails_iff_read (evaluator : Evaluator ε) (settings : Settings) (stack stack' : Nat)
    (hroom : settings.Fits stack ↔ settings.Fits stack') (tree : FileTree) (t : Tangler ε ι α)
    (dirs : List Path) (hsearch : t.search = { dirs }) (lines : List Line)
    (hlines : Include.readLines tree t.input = .ok lines)
    (hsuits : ∀ resolved,
      ((Include.resolve tree settings.maxIncludeDepth t.input 0 lines).run { dirs }).result =
        .ok resolved → Suits evaluator settings.extensionLanguage t.context resolved) (kind : Kind) :
    (∃ fault, ((weave settings stack tree).run { lines, file := t.input, dirs }).result =
      .error fault ∧ fault.kind = kind) ↔
    ∃ fault, ((Tangler.read evaluator settings stack' tree).run t).result = .error fault ∧
      fault.kind = kind := by
  rw [← Result.faultKind?_eq_some_iff, ← Result.faultKind?_eq_some_iff]
  by_cases hfits : settings.Fits stack
  swap
  · rw [result_weave_of_not_fits hfits, Tangler.result_read_of_not_fits evaluator (mt hroom.2 hfits)]
    exact Iff.rfl
  rw [result_weave hfits, Tangler.result_read evaluator (hroom.1 hfits) t hlines, hsearch]
  cases hresolved :
      ((Include.resolve tree settings.maxIncludeDepth t.input 0 lines).run { dirs }).result with
  | error fault => exact Iff.rfl
  | ok resolved =>
      have hassemble : Result.faultKind? (do
          let _ ← Block.group (← Fragment.collect settings.extensionLanguage resolved)
          return Weave.render settings.extensionLanguage false lines) =
          Result.faultKind? (Block.assemble settings.extensionLanguage resolved) := by
        unfold Block.assemble
        rw [← bind_assoc, ← bind_assoc]
        exact (Result.faultKind?_map _ _).trans (Result.faultKind?_map _ _).symm
      refine Eq.congr_left (hassemble.trans ?_)
      rcases (hsuits resolved hresolved).assemble_cases with hsame | ⟨location, hread, hweave⟩
      · exact congrArg _ hsame.symm
      · rw [hweave]
        exact (congrArg Result.faultKind? hread).symm

/-- A block that goes on in another language in an included file, after extension code that has run, is
refused by both. -/
theorem weave_and_read_mixed :
    let evaluator := (Script.engine {}).toEvaluator
    let tree : FileTree := ⟨[
      ({ names := [['a']] }, .file (some
        "``` python !\ny = 1\n\t````\n``` py b\nx\n```\n! include [](p)\n".toList)),
      ({ names := [['p']] }, .file (some "``` js b\nz\n```\n".toList))]⟩
    let t : Tangler Script.Context Value Script.Assembly :=
      { input := ⟨0, [['a']]⟩, context := Script.Context.fresh [] }
    let lines := Line.ofFile ⟨0, [['a']]⟩
      "``` python !\ny = 1\n\t````\n``` py b\nx\n```\n! include [](p)\n".toList
    ((weave {} 9 tree).run { lines, file := t.input }).result =
      .error (.ofProblem (.mixedLanguages ['b'] "py".toList "js".toList "p:1".toList)) ∧
    ∃ fault, ((Tangler.read evaluator {} 10 tree).run t).result = .error fault ∧
      fault.kind = .structural := by
  intro evaluator tree t lines
  have hweave : ((weave {} 9 tree).run { lines, file := t.input }).result =
      .error (.ofProblem (.mixedLanguages ['b'] "py".toList "js".toList "p:1".toList)) := by
    decide +kernel
  have hlines : Include.readLines tree t.input = .ok lines := by decide +kernel
  have hresolved : ((Include.resolve tree 1000 t.input 0 lines).run {}).result =
      .ok (lines.take 6 ++ Line.ofFile ⟨0, [['p']]⟩ "``` js b\nz\n```\n".toList) := by
    decide +kernel
  have hsuits : Suits evaluator "python".toList t.context
      (lines.take 6 ++ Line.ofFile ⟨0, [['p']]⟩ "``` js b\nz\n```\n".toList) :=
    { unconditional := by
        intro line hline
        fin_cases hline <;> rfl
      executes := by decide +kernel
      aligned := .opening rfl (.code rfl (fun _ => rfl) (.closing rfl (by decide) (.opening rfl
        (.code rfl (fun _ => rfl) (.closing rfl (by decide) (.opening rfl (.code rfl (fun _ => rfl)
          (.closing rfl (by decide) .nil)))))))) }
  have hroom : ({} : Settings).Fits 9 ↔ ({} : Settings).Fits 10 := by decide
  refine ⟨hweave, ?_⟩
  refine (weave_fails_iff_read evaluator {} 9 10 hroom tree t [] rfl lines hlines ?_ .structural).1
    ⟨_, hweave, rfl⟩
  intro resolved h
  cases hresolved.symm.trans h
  exact hsuits

/-- Two files that are not aligned. Extension code that ends at a marker behind a no-break space can be
read, but not woven: that line is no fence. A block that is closed by a fence of extension code can be
woven, but not read: the extractor takes that fence for an opening one. -/
theorem weave_or_read_fails_alone :
    let evaluator := (Script.engine {}).toEvaluator
    let file : Path := ⟨0, [['a']]⟩
    let tree (text : Text) : FileTree := ⟨[({ names := [['a']] }, .file (some text))]⟩
    let t : Tangler Script.Context Value Script.Assembly :=
      { input := file, context := Script.Context.fresh [] }
    let spaced : Text := "``` python !\nx = 1\n\u00a0```\n".toList
    let crossed : Text := "``` py b\nx\n``` python !\n".toList
    ((weave {} 9 (tree spaced)).run { lines := Line.ofFile file spaced, file }).result =
        .error (.ofProblem (.missingFence "a:1".toList)) ∧
      ((Tangler.read evaluator {} 9 (tree spaced)).run t).result = .ok ⟨none, []⟩ ∧
      ((weave {} 9 (tree crossed)).run { lines := Line.ofFile file crossed, file }).result =
        .ok ["###### Code Block: B\n".toList, "\n".toList, "``` py\n".toList, "x\n".toList,
          "``` python !\n".toList] ∧
      ((Tangler.read evaluator {} 9 (tree crossed)).run t).result =
        .error (.ofProblem (.missingExtensionFence "a:3".toList)) := by
  intro evaluator file tree t spaced crossed
  exact ⟨by decide +kernel, by decide +kernel, by decide +kernel, by decide +kernel⟩

end Weaver
end Literate
