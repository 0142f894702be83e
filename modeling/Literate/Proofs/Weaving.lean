import Mathlib
import Literate.Weave
import Literate.Proofs.Includes

/-! # Woven documents

Weaving and reading a document tell its opening fences from its closing ones each for itself. Reading
counts the fences of the document with its includes resolved, weaving those of the document alone. So
the two agree at a fence if the includes before it bring in an even number of fences, and only then
(`Weaver.weave_marks_iff`); a file that opens a fragment and leaves it open makes weaving mark a
closing fence (`Weaver.weave_marks_closing`).

In a document without includes they always agree. Its woven form is read as the same fragments, which
have lost their names and marks, and it is the document itself but for the lines of the opening fences
(`Weaver.weave_keeps_code`). -/

namespace Literate

open Text

/-! ### Rendering -/

namespace Weave

variable {extensionLanguage : Text} {line : Line} {rest : List Line} {header : Fence.Header}

theorem render_plain (inside : Bool) (hinclude : line.isInclude = false)
    (h : Fence.Header.parse? extensionLanguage line.text = none) :
    render extensionLanguage inside (line :: rest) =
      line.text :: render extensionLanguage inside rest := by
  unfold Line.isInclude at hinclude
  rw [render]
  split
  · next hparse =>
      rw [hparse] at hinclude
      cases hinclude
  · next hparse =>
      rw [hparse] at hinclude
      cases hinclude
  · rw [h]

theorem render_opening (h : Fence.Header.parse? extensionLanguage line.text = some header) :
    render extensionLanguage false (line :: rest) =
      opening header ++ render extensionLanguage true rest := by
  rw [render, Directive.parse?_of_fence h, h]
  rfl

theorem render_closing (h : Fence.Header.parse? extensionLanguage line.text = some header) :
    render extensionLanguage true (line :: rest) =
      line.text :: render extensionLanguage false rest := by
  rw [render, Directive.parse?_of_fence h, h]
  rfl

/-- Rendering is inside of a fence again after lines with an even number of fences. -/
theorem render_append (inside : Bool) (lines rest : List Line) :
    render extensionLanguage inside (lines ++ rest) =
      render extensionLanguage inside lines ++
        render extensionLanguage (inside ^^ !decide (Even (fences extensionLanguage lines))) rest := by
  induction lines generalizing inside with
  | nil => simp [render]
  | cons line lines ih =>
      rw [List.cons_append]
      cases hheader : Fence.Header.parse? extensionLanguage line.text with
      | some header =>
          have hflip : (inside ^^ !decide (Even (fences extensionLanguage (line :: lines)))) =
              (!inside ^^ !decide (Even (fences extensionLanguage lines))) := by
            rw [fences_cons_of_fence hheader, decide_eq_decide.2 Nat.even_add_one, decide_not]
            cases inside <;> simp
          cases inside with
          | false =>
              rw [render_opening hheader, render_opening hheader, ih, hflip, List.append_assoc]
              rfl
          | true =>
              rw [render_closing hheader, render_closing hheader, ih, hflip]
              rfl
      | none =>
          rw [fences_cons_of_plain hheader, render, render, hheader]
          split
          · rw [ih, List.cons_append]
          · exact ih inside
          · rw [ih, List.cons_append]

theorem head?_heading (header : Fence.Header) : (heading header).head? = some '#' := by
  unfold heading
  split
  · rfl
  · dsimp only
    split <;> rfl

theorem parse?_heading (extensionLanguage : Text) (header : Fence.Header) :
    Fence.Header.parse? extensionLanguage (heading header) = none := by
  obtain ⟨cs, hcs⟩ := List.head?_eq_some_iff.1 (head?_heading header)
  rw [hcs]
  exact Fence.Header.parse?_cons_eq_none cs rfl (by decide)

/-- A document that is woven into `woven` has an opening put in for the fence after `before`. -/
def MarkedAfter (extensionLanguage : Text) (before : List Line) (header : Fence.Header)
    (woven : List Text) : Prop :=
  ∃ rest, woven = render extensionLanguage false before ++ (opening header ++ rest)

/-- A document that is woven into `woven` has the line after `before` left as it is. -/
def KeptAfter (extensionLanguage : Text) (before : List Line) (line : Line) (woven : List Text) :
    Prop :=
  ∃ rest, woven = render extensionLanguage false before ++ line.text :: rest

theorem render_fence (before after : List Line)
    (h : Fence.Header.parse? extensionLanguage line.text = some header) :
    (MarkedAfter extensionLanguage before header
        (render extensionLanguage false (before ++ line :: after)) ↔
      Even (fences extensionLanguage before)) ∧
    (KeptAfter extensionLanguage before line
        (render extensionLanguage false (before ++ line :: after)) ↔
      ¬ Even (fences extensionLanguage before)) := by
  have hdistinct : ∀ first second : List Text, opening header ++ first ≠ line.text :: second := by
    intro first second hsame
    have htext : heading header = line.text := (List.cons.inj hsame).1
    rw [← htext, parse?_heading] at h
    cases h
  unfold MarkedAfter KeptAfter
  rw [render_append]
  simp only [List.append_cancel_left_eq]
  by_cases heven : Even (fences extensionLanguage before)
  · have hinside : (false ^^ !decide (Even (fences extensionLanguage before))) = false := by
      simp [heven]
    rw [hinside, render_opening h]
    refine ⟨iff_of_true ⟨_, rfl⟩ heven, iff_of_false ?_ (not_not_intro heven)⟩
    rintro ⟨rest, hrest⟩
    exact hdistinct _ rest hrest
  · have hinside : (false ^^ !decide (Even (fences extensionLanguage before))) = true := by
      simp [heven]
    rw [hinside, render_closing h]
    refine ⟨iff_of_false ?_ heven, iff_of_true ⟨_, rfl⟩ heven⟩
    rintro ⟨rest, hrest⟩
    exact hdistinct rest _ hrest.symm

end Weave

/-! ### What is marked -/

namespace Weaver

variable {settings : Settings} {stack : Nat} {tree : FileTree} {w : Weaver} {woven : List Text}

/-- A document is woven if its includes resolve, its fences balance and its blocks keep to one
language each. -/
theorem result_weave (hfits : settings.Fits stack) (tree : FileTree) (w : Weaver) :
    ((weave settings stack tree).run w).result = (do
      let resolved ←
        ((Include.resolve tree settings.maxIncludeDepth w.file 0 w.lines).run { dirs := w.dirs }).result
      let _ ← Block.group (← Fragment.collect settings.extensionLanguage resolved)
      return Weave.render settings.extensionLanguage false w.lines) := by
  have hcheck : ((Weave.check tree settings w.file w.lines).run { dirs := w.dirs }).result = (do
      let resolved ←
        ((Include.resolve tree settings.maxIncludeDepth w.file 0 w.lines).run { dirs := w.dirs }).result
      let blocks ← Block.group (← Fragment.collect settings.extensionLanguage resolved)
      return blocks.mapValues fun block =>
        ⟨block.fragments.length, block.fragments.map fun fragment => fragment.opened.source⟩) := by
    unfold Weave.check
    simp only [Run.result_bind, Run.result_ofExcept, bind_assoc]
    rfl
  have hweave : ((weave settings stack tree).run w).result = (do
      let _ ← ((Weave.check tree settings w.file w.lines).run { dirs := w.dirs }).result
      return Weave.render settings.extensionLanguage false w.lines) := by
    unfold weave
    simp only [Run.result_bind, Run.withRoom_of_fits hfits]
    rfl
  rw [hweave, hcheck]
  simp only [bind_assoc, pure_bind]

theorem result_weave_of_not_fits (hfits : ¬settings.Fits stack) (tree : FileTree) (w : Weaver) :
    ((weave settings stack tree).run w).result = .error (.ofFailure noRoom) := by
  unfold weave
  simp only [Run.result_bind, Run.withRoom_of_not_fits hfits]
  rfl

theorem fits_of_weave (h : ((weave settings stack tree).run w).result = .ok woven) :
    settings.Fits stack := by
  by_contra hfits
  rw [result_weave_of_not_fits hfits] at h
  cases h

theorem of_weave (h : ((weave settings stack tree).run w).result = .ok woven) :
    woven = Weave.render settings.extensionLanguage false w.lines ∧
    ∃ resolved fragments search,
      (Include.resolve tree settings.maxIncludeDepth w.file 0 w.lines).Ends { dirs := w.dirs }
        (.ok resolved) search ∧
      Fragment.collect settings.extensionLanguage resolved = .ok fragments := by
  rw [result_weave (fits_of_weave h)] at h
  obtain ⟨resolved, hresolved, h⟩ := Result.bind_eq_ok.1 h
  obtain ⟨fragments, hfragments, h⟩ := Result.bind_eq_ok.1 h
  obtain ⟨blocks, -, h⟩ := Result.bind_eq_ok.1 h
  exact ⟨(Except.ok.inj h).symm, resolved, fragments, _, ⟨hresolved, rfl⟩, hfragments⟩

/-- A fence of a woven document is marked or kept. Whether it is marked if and only if the document with
its includes resolved has a fragment that opens there depends on the number of fences that the includes
before it bring in: the two agree if it is even, and differ if it is odd. -/
theorem weave_marks_iff {before after : List Line} {line : Line} {header : Fence.Header}
    (hweave : ((weave settings stack tree).run w).result = .ok woven)
    (hlines : w.lines = before ++ line :: after)
    (hheader : Fence.Header.parse? settings.extensionLanguage line.text = some header) :
    ∃ pre post brought,
      ((Include.resolve tree settings.maxIncludeDepth w.file 0 before).run
        { dirs := w.dirs }).result = .ok pre ∧
      ((Include.resolve tree settings.maxIncludeDepth w.file 0 w.lines).run
        { dirs := w.dirs }).result = .ok (pre ++ line :: post) ∧
      fences settings.extensionLanguage pre =
        fences settings.extensionLanguage before + brought ∧
      (Weave.KeptAfter settings.extensionLanguage before line woven ↔
        ¬ Weave.MarkedAfter settings.extensionLanguage before header woven) ∧
      (Even brought ↔
        (Weave.MarkedAfter settings.extensionLanguage before header woven ↔
          Fragment.OpensAt settings.extensionLanguage pre line post)) := by
  obtain ⟨rfl, resolved, fragments, search, hresolved, hfragments⟩ := of_weave hweave
  rw [hlines] at hresolved ⊢
  obtain ⟨pre, post, t, hpre, rfl⟩ :=
    Include.of_ends_resolve_append hresolved (Line.isInclude_of_fence hheader)
  obtain ⟨brought, hbrought⟩ := Nat.exists_eq_add_of_le (Include.fences_le_of_ends_resolve hpre)
  obtain ⟨hmarked, hkept⟩ := Weave.render_fence before after hheader
  refine ⟨pre, post, brought, hpre.1, hresolved.1, hbrought, ?_, ?_⟩
  · rw [hmarked, hkept]
  · rw [hmarked, Fragment.opensAt_iff hheader hfragments, hbrought, Nat.even_add]
    tauto

/-- After an include that brings in a whole fragment, the fence that is marked opens the next one. -/
theorem weave_marks_after_include :
    let tree : FileTree := ⟨[({ names := [['p']] }, .file (some "``` js\nx\n```\n".toList))]⟩
    let file : Path := ⟨0, [['a']]⟩
    let before : List Line := [⟨"! include [](p)\n".toList, some file, 1⟩]
    let line : Line := ⟨"  ``` js\n".toList, some file, 2⟩
    let after : List Line := [⟨"y\n".toList, some file, 3⟩, ⟨"```\n".toList, some file, 4⟩]
    let woven := [Weave.includeLink ['p'], "###### Output Block\n".toList, "\n".toList,
      "  ``` js\n".toList, "y\n".toList, "```\n".toList]
    ((weave {} 9 tree).run { lines := before ++ line :: after, file }).result = .ok woven ∧
    ∃ pre post,
      ((Include.resolve tree 1000 file 0 (before ++ line :: after)).run {}).result =
        .ok (pre ++ line :: post) ∧
      Fragment.OpensAt "python".toList pre line post ∧
      ¬ Weave.KeptAfter "python".toList before line woven := by
  intro tree file before line after woven
  have hweave : ((weave {} 9 tree).run { lines := before ++ line :: after, file }).result =
      .ok woven := by decide +kernel
  have hbefore : ((Include.resolve tree 1000 file 0 before).run {}).result =
      .ok [⟨"``` js\n".toList, some ⟨0, [['p']]⟩, 1⟩, ⟨"x\n".toList, some ⟨0, [['p']]⟩, 2⟩,
        ⟨"```\n".toList, some ⟨0, [['p']]⟩, 3⟩] := by decide +kernel
  have hheader : Fence.Header.parse? "python".toList line.text =
      some { indent := "  ".toList, language := "js".toList } := by decide +kernel
  obtain ⟨pre, post, brought, hpre, hall, hbrought, hkept, hagree⟩ :=
    weave_marks_iff hweave rfl hheader
  cases hbefore.symm.trans hpre
  have hmarked : Weave.MarkedAfter "python".toList before
      { indent := "  ".toList, language := "js".toList } woven :=
    ⟨["y\n".toList, "```\n".toList], by decide +kernel⟩
  have hcount : 2 = 0 + brought := hbrought
  have heven : Even brought := ⟨1, by omega⟩
  refine ⟨hweave, _, post, hall, (hagree.1 heven).1 hmarked, ?_⟩
  intro h
  exact hkept.1 h hmarked

/-- After an include that leaves a fragment open, the fence that closes it is marked. -/
theorem weave_marks_closing :
    let tree : FileTree := ⟨[({ names := [['p']] }, .file (some "``` py\n".toList))]⟩
    let file : Path := ⟨0, [['a']]⟩
    let before : List Line :=
      [⟨"! include [](p)\n".toList, some file, 1⟩, ⟨"x\n".toList, some file, 2⟩]
    let line : Line := ⟨"```\n".toList, some file, 3⟩
    let woven := [Weave.includeLink ['p'], "x\n".toList, "###### Output Block\n".toList,
      "\n".toList, "``` \n".toList]
    let pre : List Line :=
      [⟨"``` py\n".toList, some ⟨0, [['p']]⟩, 1⟩, ⟨"x\n".toList, some file, 2⟩]
    ((weave {} 9 tree).run { lines := before ++ [line], file }).result = .ok woven ∧
    ((Include.resolve tree 1000 file 0 (before ++ [line])).run {}).result = .ok (pre ++ [line]) ∧
    Weave.MarkedAfter "python".toList before {} woven ∧
    ¬ Fragment.OpensAt "python".toList pre line [] := by
  intro tree file before line woven pre
  refine ⟨by decide +kernel, by decide +kernel, ⟨[], by decide +kernel⟩, ?_⟩
  rintro ⟨first, -, -, hfirst, -, -⟩
  have hopen : Fragment.collect "python".toList pre =
      .error (.ofProblem (.missingFence "p:1".toList)) := by decide +kernel
  cases hopen.symm.trans hfirst

end Weaver

/-! ### What is kept -/

/-- A fragment holds the code of another one under a header that shows its indentation and its
language alone. -/
structure Fragment.Shows (shown fragment : Fragment) : Prop where
  lines : shown.lines = fragment.lines
  header : shown.header =
    { indent := fragment.header.indent, language := fragment.header.language }

namespace Weave

variable {extensionLanguage : Text} {line : Line} {header : Fence.Header}

/-- The fence that is put in for an opening fence has its indentation and its language. -/
theorem parse?_opening (h : Fence.Header.parse? extensionLanguage line.text = some header) :
    Fence.Header.parse? extensionLanguage
        (header.indent ++ Fence.marker ++ ' ' :: header.language ++ ['\n']) =
      some { indent := header.indent, language := header.language } := by
  have htext : header.indent ++ Fence.marker ++ ' ' :: header.language ++ ['\n'] =
      header.indent ++ (Fence.marker ++ ' ' :: (header.language ++ ['\n'])) := by simp
  rw [htext]
  exact Fence.Header.parse?_written extensionLanguage (Fence.Header.indent_of_parse? h)
    (Fence.Header.language_of_parse? h) (by simp [isNewline])

theorem parse?_empty (extensionLanguage : Text) :
    Fence.Header.parse? extensionLanguage ['\n'] = none :=
  Fence.Header.parse?_cons_eq_none [] rfl (by decide)

/-- The woven form of lines is read as the fragments of the lines, each of which shows what it was. -/
theorem collectFrom_render {lines shown : List Line} {fragments : List Fragment}
    {current current' : Option Fragment} (hcurrent : Option.Rel Fragment.Shows current' current)
    (hplain : ∀ line ∈ lines, line.isInclude = false)
    (hshown : shown.map Line.text = render extensionLanguage current.isSome lines)
    (h : Fragment.collectFrom extensionLanguage current lines = .ok fragments) :
    ∃ fragments', Fragment.collectFrom extensionLanguage current' shown = .ok fragments' ∧
      List.Forall₂ Fragment.Shows fragments' fragments := by
  induction lines generalizing shown current current' fragments with
  | nil =>
      obtain rfl := List.map_eq_nil_iff.1 hshown
      cases hcurrent with
      | none =>
          cases h
          exact ⟨[], rfl, .nil⟩
      | some _ => cases h
  | cons line rest ih =>
      rw [List.forall_mem_cons] at hplain
      cases hheader : Fence.Header.parse? extensionLanguage line.text with
      | none =>
          rw [render_plain _ hplain.1 hheader] at hshown
          obtain ⟨line', rest', rfl, htext, hrest⟩ := List.map_eq_cons_iff.1 hshown
          have hheader' : Fence.Header.parse? extensionLanguage line'.text = none := htext ▸ hheader
          rw [Fragment.collectFrom_plain _ hheader] at h
          rw [Fragment.collectFrom_plain _ hheader']
          refine ih ?_ hplain.2 (by simpa using hrest) h
          cases hcurrent with
          | none => exact .none
          | some hshows =>
              rw [htext]
              exact .some ⟨congrArg (· ++ [line.text]) hshows.lines, hshows.header⟩
      | some header =>
          cases hcurrent with
          | none =>
              rw [Option.isSome_none, render_opening hheader] at hshown
              obtain ⟨head, shown, rfl, hhead, hshown⟩ := List.map_eq_cons_iff.1 hshown
              obtain ⟨empty, shown, rfl, hempty, hshown⟩ := List.map_eq_cons_iff.1 hshown
              obtain ⟨fence, shown, rfl, hfence, hshown⟩ := List.map_eq_cons_iff.1 hshown
              rw [Fragment.collectFrom_opening hheader] at h
              rw [Fragment.collectFrom_plain none (hhead ▸ parse?_heading _ header),
                Option.map_none, Fragment.collectFrom_plain none (hempty ▸ parse?_empty _),
                Option.map_none, Fragment.collectFrom_opening (hfence ▸ parse?_opening hheader)]
              have hshows : Fragment.Shows
                  ⟨{ indent := header.indent, language := header.language }, [], fence⟩
                  ⟨header, [], line⟩ := ⟨rfl, rfl⟩
              exact ih (.some hshows) hplain.2 hshown h
          | some hshows =>
              rw [Option.isSome_some, render_closing hheader] at hshown
              obtain ⟨line', rest', rfl, htext, hrest⟩ := List.map_eq_cons_iff.1 hshown
              obtain ⟨others, hothers, rfl⟩ := (Fragment.collectFrom_closing_eq_ok_iff hheader).1 h
              obtain ⟨others', hothers', hall⟩ := ih .none hplain.2 hrest hothers
              exact ⟨_, (Fragment.collectFrom_closing_eq_ok_iff (htext ▸ hheader)).2
                ⟨others', hothers', rfl⟩, .cons hshows hall⟩

/-- A text without its opening fences and the `margin` lines before each of them. Outside of a
fragment, `prose` holds the lines since the last one; inside there are none. -/
def withoutOpenings (extensionLanguage : Text) (margin : Nat) :
    Option (List Text) → List Text → List Text
  | none, [] => []
  | some prose, [] => prose
  | none, line :: rest =>
    line :: withoutOpenings extensionLanguage margin
      (if (Fence.Header.parse? extensionLanguage line).isSome then some [] else none) rest
  | some prose, line :: rest =>
    if (Fence.Header.parse? extensionLanguage line).isSome then
      prose.rdrop margin ++ withoutOpenings extensionLanguage margin none rest
    else withoutOpenings extensionLanguage margin (some (prose ++ [line])) rest

/-- Without the three lines put in for each opening fence, woven lines are the lines without their
opening fences. -/
theorem withoutOpenings_render {lines : List Line}
    (hplain : ∀ line ∈ lines, line.isInclude = false) (outside : Option (List Text)) :
    withoutOpenings extensionLanguage 2 outside
        (render extensionLanguage outside.isNone lines) =
      withoutOpenings extensionLanguage 0 outside (lines.map Line.text) := by
  induction lines generalizing outside with
  | nil => cases outside <;> rfl
  | cons line rest ih =>
      rw [List.forall_mem_cons] at hplain
      have ihInside := ih hplain.2 none
      have ihOutside := fun prose => ih hplain.2 (some prose)
      rw [List.map_cons]
      cases hheader : Fence.Header.parse? extensionLanguage line.text with
      | none =>
          rw [render_plain _ hplain.1 hheader]
          cases outside with
          | none => simpa [withoutOpenings, hheader] using ihInside
          | some prose => simpa [withoutOpenings, hheader] using ihOutside (prose ++ [line.text])
      | some header =>
          cases outside with
          | none =>
              rw [Option.isNone_none, render_closing hheader]
              simpa [withoutOpenings, hheader] using ihOutside []
          | some prose =>
              rw [Option.isNone_some, render_opening hheader]
              have hfence := parse?_opening hheader
              have hmargin : (prose ++ [heading header] ++ [['\n']]).rdrop 2 = prose := by
                simp [List.rdrop]
              simp only [opening, List.cons_append, List.nil_append, withoutOpenings,
                parse?_heading, parse?_empty, hheader, hfence, Option.isSome_none,
                Option.isSome_some, if_true, Bool.false_eq_true, if_false, hmargin, List.rdrop_zero]
              exact congrArg _ ihInside

end Weave

namespace Weaver

variable {settings : Settings} {stack : Nat} {tree : FileTree} {w : Weaver} {woven : List Text}

/-- A document without includes keeps its code when it is woven: what is woven has the same fragments
under plain headers, and nothing but the lines of the opening fences has changed. -/
theorem weave_keeps_code (hweave : ((weave settings stack tree).run w).result = .ok woven)
    (hplain : ∀ line ∈ w.lines, line.isInclude = false) :
    ∃ fragments, Fragment.collect settings.extensionLanguage w.lines = .ok fragments ∧
      (∀ lines, lines.map Line.text = woven →
        ∃ shown, Fragment.collect settings.extensionLanguage lines = .ok shown ∧
          List.Forall₂ Fragment.Shows shown fragments) ∧
      Weave.withoutOpenings settings.extensionLanguage 2 (some []) woven =
        Weave.withoutOpenings settings.extensionLanguage 0 (some []) (w.lines.map Line.text) := by
  obtain ⟨rfl, resolved, fragments, search, hresolved, hfragments⟩ := of_weave hweave
  obtain rfl := Include.eq_of_ends_resolve hresolved hplain
  refine ⟨fragments, hfragments, ?_, Weave.withoutOpenings_render hplain (some [])⟩
  intro lines hlines
  exact Weave.collectFrom_render .none hplain hlines hfragments

/-- Extension code, an indented fence that replaces a block and a fence with a fourth backtick: all of it
is woven, and each fragment is still there. -/
theorem weave_keeps_mixed_code :
    let lines := Line.ofFile ⟨0, [['a']]⟩
      "p\n``` python !\nx = 1\n```\n \t```js=b-c!\ny\n```\n```` js c\nz\n```\nq".toList
    let woven := ["p\n".toList, "###### Extension Block\n".toList, "\n".toList,
      "``` python\n".toList, "x = 1\n".toList, "```\n".toList,
      "###### Replacing Code Block: B C\n".toList, "\n".toList, " \t``` js\n".toList,
      "y\n".toList, "```\n".toList, "###### Output Block\n".toList, "\n".toList,
      "``` \n".toList, "z\n".toList, "```\n".toList, "q".toList]
    ((weave {} 9 {}).run { lines }).result = .ok woven ∧
    (∃ shown fragments,
      Fragment.collect "python".toList (Line.numbered none 1 woven) = .ok shown ∧
      Fragment.collect "python".toList lines = .ok fragments ∧
      fragments.map Fragment.lines = [["x = 1\n".toList], ["y\n".toList], ["z\n".toList]] ∧
      List.Forall₂ Fragment.Shows shown fragments) ∧
    Weave.withoutOpenings "python".toList 2 (some []) woven =
      ["p\n".toList, "x = 1\n".toList, "```\n".toList, "y\n".toList, "```\n".toList,
        "z\n".toList, "```\n".toList, "q".toList] := by
  intro lines woven
  have hweave : ((weave {} 9 {}).run { lines }).result = .ok woven := by decide +kernel
  have hplain : ∀ line ∈ lines, line.isInclude = false := by decide +kernel
  obtain ⟨fragments, hfragments, hshown, hrest⟩ := weave_keeps_code hweave hplain
  obtain ⟨shown, hcollect, hshows⟩ := hshown (Line.numbered none 1 woven) (by decide +kernel)
  have hcode : (Fragment.collect "python".toList lines).map (List.map Fragment.lines) =
      .ok [["x = 1\n".toList], ["y\n".toList], ["z\n".toList]] := by decide +kernel
  rw [hfragments] at hcode
  refine ⟨hweave, ⟨shown, fragments, hcollect, hfragments, Except.ok.inj hcode, hshows⟩, ?_⟩
  exact hrest.trans (by decide +kernel)

end Weaver
end Literate
