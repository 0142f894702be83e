import Mathlib
import Literate.Proofs.Inlining

/-! # Where lines end

Each line of a text is parted from the next (`Cut.isChain`): it ends in a terminator, and not in a
carriage return before a line feed. So only the last line may lack a terminator, and it does if the text
does. Lines that are written one after the other are read back as they were if and only if they are parted
in this way (`splitLines_flatten_iff`).

When includes are resolved, the last line of a file comes to stand before lines of another one. A resolved
line without a terminator is therefore the last line of a file that ends in none, and it may stand anywhere
(`resolveFile_boundaries`). Where every file that is included ends in a terminator, only the last resolved
line may lack one. -/

namespace Literate

/-! ### The lines of a text -/

namespace Text

variable {ends : Char → Bool} {t a b : Text} {lines : List Text}

/-- The text ends in a terminator. -/
def EndsLine (ends : Char → Bool) (t : Text) : Prop := t.getLast?.any ends = true

instance : Decidable (EndsLine ends t) := inferInstanceAs (Decidable (_ = true))

/-- A line ends behind a character that a text follows. -/
def breaks (ends : Char → Bool) (c : Char) (rest : Text) : Bool :=
  ends c && !(c == '\r' && rest.head? == some '\n')

/-- A text ends in a terminator, also when the other text follows it. -/
def Parts (ends : Char → Bool) (a b : Text) : Prop := a.getLast?.any (breaks ends · b) = true

instance : Decidable (Parts ends a b) := inferInstanceAs (Decidable (_ = true))

theorem Parts.endsLine (h : Parts ends a b) : EndsLine ends a := by
  unfold Parts at h
  unfold EndsLine
  cases hlast : a.getLast? with
  | none =>
      rw [hlast] at h
      cases h
  | some c =>
      rw [hlast] at h
      exact (Bool.and_eq_true_iff.1 h).1

theorem Parts.cons (c : Char) (h : Parts ends a b) : Parts ends (c :: a) b := by
  unfold Parts at h ⊢
  cases a with
  | nil => cases h
  | cons d a => rwa [List.getLast?_cons_cons]

theorem breaks_congr (c : Char) (h : a.head? = b.head?) : breaks ends c a = breaks ends c b := by
  unfold breaks
  rw [h]

theorem splitLines_stop {c : Char} (h : breaks ends c t = true) :
    splitLines ends (c :: t) = [c] :: splitLines ends t := if_pos h

theorem splitLines_push {c : Char} (h : breaks ends c t = false) :
    splitLines ends (c :: t) = pushFront c (splitLines ends t) := if_neg (Bool.eq_false_iff.1 h)

/-- How a text is cut into lines, from its end on. -/
inductive Cut (ends : Char → Bool) : Text → List Text → Prop
  | nil : Cut ends [] []
  | last (c : Char) (h : breaks ends c [] = false) : Cut ends [c] [[c]]
  | stop {t : Text} {lines : List Text} (c : Char) (h : breaks ends c t = true)
      (rest : Cut ends t lines) : Cut ends (c :: t) ([c] :: lines)
  | push {t line : Text} {lines : List Text} (c : Char) (h : breaks ends c t = false)
      (rest : Cut ends t (line :: lines)) : Cut ends (c :: t) ((c :: line) :: lines)

theorem cut_splitLines (ends : Char → Bool) : ∀ t : Text, Cut ends t (splitLines ends t)
  | [] => .nil
  | c :: t => by
      have ih := cut_splitLines ends t
      cases h : breaks ends c t with
      | true =>
          rw [splitLines_stop h]
          exact .stop c h ih
      | false =>
          rw [splitLines_push h]
          cases hlines : splitLines ends t with
          | nil =>
              rw [hlines] at ih
              cases ih
              exact .last c h
          | cons line lines =>
              rw [hlines] at ih
              exact .push c h ih

namespace Cut

theorem ne_nil (h : Cut ends t lines) : ∀ line ∈ lines, line ≠ [] := by
  induction h with
  | nil => simp
  | last c h => simp
  | stop c h rest ih => exact List.forall_mem_cons.2 ⟨by simp, ih⟩
  | push c h rest ih => exact List.forall_mem_cons.2 ⟨by simp, (List.forall_mem_cons.1 ih).2⟩

theorem flatten_eq (h : Cut ends t lines) : lines.flatten = t := by
  induction h with
  | nil => rfl
  | last c h => rfl
  | stop c h rest ih => exact congrArg (c :: ·) ih
  | push c h rest ih => exact congrArg (c :: ·) ih

theorem head?_eq {line : Text} (h : Cut ends t (line :: lines)) : line.head? = t.head? := by
  have hne := h.ne_nil line List.mem_cons_self
  rw [← h.flatten_eq, List.flatten_cons, List.head?_append_of_ne_nil _ hne]

theorem getLast?_eq {line : Text} (h : Cut ends t lines) (hline : lines.getLast? = some line) :
    line.getLast? = t.getLast? := by
  obtain ⟨before, rfl⟩ := List.getLast?_eq_some_iff.1 hline
  have hne := h.ne_nil line (by simp)
  rw [← h.flatten_eq, List.flatten_append, List.flatten_singleton,
    List.getLast?_append_of_ne_nil _ hne]

theorem isChain (h : Cut ends t lines) : lines.IsChain (Parts ends) := by
  induction h with
  | nil => exact .nil
  | last c h => exact .singleton _
  | @stop t lines c h rest ih =>
      refine List.isChain_cons.2 ⟨fun line hline => ?_, ih⟩
      obtain ⟨others, rfl⟩ := List.head?_eq_some_iff.1 hline
      exact (breaks_congr c rest.head?_eq).trans h
  | push c h rest ih =>
      rw [List.isChain_cons] at ih ⊢
      exact ⟨fun line hline => (ih.1 line hline).cons c, ih.2⟩

theorem splitLines_of_mem (h : Cut ends t lines) : ∀ line ∈ lines, splitLines ends line = [line] := by
  induction h with
  | nil => simp
  | last c h => simp [splitLines, pushFront]
  | stop c h rest ih =>
      refine List.forall_mem_cons.2 ⟨?_, ih⟩
      cases hc : breaks ends c [] with
      | true => exact splitLines_stop hc
      | false => exact splitLines_push hc
  | push c h rest ih =>
      rw [List.forall_mem_cons] at ih ⊢
      refine ⟨?_, ih.2⟩
      rw [splitLines_push ((breaks_congr c rest.head?_eq).trans h), ih.1]
      rfl

end Cut

theorem endsLine_of_isChain : ∀ {lines : List Text}, lines.IsChain (Parts ends) →
    ∀ line ∈ lines.dropLast, EndsLine ends line
  | [], _ => by simp
  | [_], _ => by simp
  | line :: next :: lines, h => by
      rw [List.isChain_cons_cons] at h
      rw [List.dropLast_cons_cons]
      exact List.forall_mem_cons.2 ⟨h.1.endsLine, endsLine_of_isChain h.2⟩

/-- A line that is parted from the text behind it is the first line of both. -/
theorem splitLines_append (ha : splitLines ends a = [a]) (h : Parts ends a b) :
    splitLines ends (a ++ b) = a :: splitLines ends b := by
  induction a with
  | nil => cases h
  | cons c a ih =>
      cases a with
      | nil => exact splitLines_stop h
      | cons d a =>
          cases hc : breaks ends c (d :: a) with
          | true =>
              rw [splitLines_stop hc] at ha
              simp at ha
          | false =>
              have hrest : splitLines ends (d :: a) = [d :: a] := by
                rw [splitLines_push hc] at ha
                cases hsplit : splitLines ends (d :: a) with
                | nil => simp [hsplit, pushFront] at ha
                | cons line others => simpa [hsplit, pushFront] using ha
              have hparts : Parts ends (d :: a) b := by
                unfold Parts at h ⊢
                rwa [List.getLast?_cons_cons] at h
              have hc' : breaks ends c (d :: a ++ b) = false := (breaks_congr c rfl).trans hc
              rw [List.cons_append, splitLines_push hc', ih hrest hparts]
              rfl

/-- Lines that are written one after the other are read back as they were exactly if each is parted from
the next. -/
theorem splitLines_flatten_iff (hlines : ∀ line ∈ lines, splitLines ends line = [line]) :
    splitLines ends lines.flatten = lines ↔ lines.IsChain (Parts ends) := by
  constructor
  · intro h
    rw [← h]
    exact (cut_splitLines ends _).isChain
  · intro h
    induction lines with
    | nil => rfl
    | cons line lines ih =>
        rw [List.forall_mem_cons] at hlines
        rw [List.isChain_cons] at h
        have hrest := ih hlines.2 h.2
        cases lines with
        | nil => simpa using hlines.1
        | cons next lines =>
            have hhead : (next :: lines).flatten.head? = next.head? := by
              rw [List.flatten_cons, List.head?_append_of_ne_nil]
              rintro rfl
              cases hlines.2 [] List.mem_cons_self
            have hparts : Parts ends line (next :: lines).flatten := by
              have hnext := h.1 next rfl
              unfold Parts at hnext ⊢
              simpa only [breaks_congr _ hhead] using hnext
            rw [List.flatten_cons, splitLines_append hlines.1 hparts, hrest]

end Text

/-! ### The lines of a file -/

namespace Include

open Text Run

variable {tree : FileTree} {maxDepth : Int} {file : Path} {s : Search}

/-- The file ends in a terminator, or holds nothing. -/
def IsClosed (tree : FileTree) (path : Path) : Prop :=
  ∀ text, tree.read path = .ok text → text = [] ∨ EndsLine isNewline text

/-- The line is the last one of a file that ends in no terminator. -/
def IsOpenEnd (tree : FileTree) (line : Line) : Prop :=
  ∃ path text, tree.read path = .ok text ∧ ¬ EndsLine isNewline text ∧
    (Line.ofFile path text).getLast? = some line

theorem map_text_ofFile (path : Path) (text : Text) :
    (Line.ofFile path text).map Line.text = splitLines isNewline text :=
  Line.map_text_numbered _ _ _

theorem endsLine_iff_of_getLast? {path : Path} {text : Text} {line : Line}
    (h : (Line.ofFile path text).getLast? = some line) :
    EndsLine isNewline line.text ↔ EndsLine isNewline text := by
  have hlast : (splitLines isNewline text).getLast? = some line.text := by
    rw [← map_text_ofFile path, List.getLast?_map, h]
    rfl
  unfold EndsLine
  rw [(cut_splitLines isNewline text).getLast?_eq hlast]

theorem endsLine_of_mem_dropLast {path : Path} {text : Text} :
    ∀ line ∈ (Line.ofFile path text).dropLast, EndsLine isNewline line.text := by
  intro line hline
  refine endsLine_of_isChain (cut_splitLines isNewline text).isChain line.text ?_
  rw [← map_text_ofFile path, ← List.map_dropLast]
  exact List.mem_map_of_mem hline

theorem getLast?_of_not_endsLine {path : Path} {text : Text} {line : Line}
    (hline : line ∈ Line.ofFile path text) (hopen : ¬ EndsLine isNewline line.text) :
    (Line.ofFile path text).getLast? = some line := by
  have hne := List.ne_nil_of_mem hline
  rw [← List.dropLast_append_getLast hne, List.mem_append, List.mem_singleton] at hline
  rcases hline with hline | rfl
  · exact absurd (endsLine_of_mem_dropLast line hline) hopen
  · exact List.getLast?_eq_some_getLast hne

/-- A line of a file lacks a terminator exactly if it is the last one and the file lacks it. -/
theorem IsLineOf.not_endsLine_iff {line : Line} (h : IsLineOf tree line) :
    ¬ EndsLine isNewline line.text ↔ IsOpenEnd tree line := by
  constructor
  · intro hopen
    obtain ⟨path, lines, index, -, -, hread, hindex⟩ := h
    obtain ⟨text, htext, rfl⟩ := exists_of_readLines hread
    have hlast := getLast?_of_not_endsLine (List.mem_of_getElem? hindex) hopen
    exact ⟨path, text, htext, mt (endsLine_iff_of_getLast? hlast).2 hopen, hlast⟩
  · rintro ⟨path, text, -, hopen, hlast⟩
    exact mt (endsLine_iff_of_getLast? hlast).1 hopen

theorem splitLines_of_isLineOf {line : Line} (h : IsLineOf tree line) :
    splitLines isNewline line.text = [line.text] := by
  obtain ⟨path, lines, index, -, -, hread, hindex⟩ := h
  obtain ⟨text, -, rfl⟩ := exists_of_readLines hread
  refine (cut_splitLines isNewline text).splitLines_of_mem line.text ?_
  rw [← map_text_ofFile path]
  exact List.mem_map_of_mem (List.mem_of_getElem? hindex)

theorem endsLine_of_isClosed {lines : List Line} (h : IsClosed tree file)
    (hread : readLines tree file = .ok lines) : ∀ line ∈ lines, EndsLine isNewline line.text := by
  intro line hline
  obtain ⟨text, htext, rfl⟩ := exists_of_readLines hread
  by_contra hopen
  have hlast := getLast?_of_not_endsLine hline hopen
  rcases h text htext with rfl | hends
  · cases hlast
  · exact hopen ((endsLine_iff_of_getLast? hlast).2 hends)

/-! ### The lines of an inlining -/

namespace Inlining

/-- The files that are included, in order. -/
def targets : {file : Path} → {source : List Line} → Inlining tree file source → List Path
  | _, _, nil => []
  | _, _, keep _ _ next => next.targets
  | _, _, skip _ _ next => next.targets
  | _, _, splice _ _ target _ body next => target :: body.targets ++ next.targets

theorem map_resolved_visits {source : List Line} (inlining : Inlining tree file source) (depth : Int) :
    ((inlining.visits depth).filterMap Visit.record?).map IncludeRecord.resolved =
      inlining.targets := by
  induction inlining generalizing depth with
  | nil => rfl
  | keep line plain next ih => exact ih depth
  | skip name directive next ih => exact ih depth
  | splice reference directive target read body next ihbody ihnext =>
      simp only [visits, targets, List.cons_append, List.filterMap_cons, Visit.record?,
        List.filterMap_append, List.map_cons, List.map_append, ihbody, ihnext]

theorem endsLine {source : List Line} (inlining : Inlining tree file source)
    (hsource : ∀ line ∈ source, EndsLine isNewline line.text)
    (htargets : ∀ path ∈ inlining.targets, IsClosed tree path) :
    ∀ line ∈ inlining.lines, EndsLine isNewline line.text := by
  induction inlining with
  | nil => exact hsource
  | keep line plain next ih =>
      rw [List.forall_mem_cons] at hsource
      exact List.forall_mem_cons.2 ⟨hsource.1, ih hsource.2 htargets⟩
  | skip name directive next ih => exact ih (List.forall_mem_cons.1 hsource).2 htargets
  | splice reference directive target read body next ihbody ihnext =>
      simp only [targets, List.cons_append, List.forall_mem_cons, List.forall_mem_append] at htargets
      exact List.forall_mem_append.2
        ⟨ihbody (endsLine_of_isClosed htargets.1 read) htargets.2.1,
          ihnext (List.forall_mem_cons.1 hsource).2 htargets.2.2⟩

theorem mem_dropLast_cons {line first : Line} {rest : List Line} (h : line ∈ rest.dropLast) :
    line ∈ (first :: rest).dropLast := by
  cases rest with
  | nil => cases h
  | cons second rest =>
      rw [List.dropLast_cons_cons]
      exact List.mem_cons_of_mem first h

theorem endsLine_dropLast_append {lines more : List Line}
    (hlines : ∀ line ∈ lines, EndsLine isNewline line.text)
    (hmore : ∀ line ∈ more.dropLast, EndsLine isNewline line.text) :
    ∀ line ∈ (lines ++ more).dropLast, EndsLine isNewline line.text := by
  intro line hline
  rw [List.dropLast_append] at hline
  split at hline
  · exact hlines line (List.mem_of_mem_dropLast hline)
  · rcases List.mem_append.1 hline with hline | hline
    · exact hlines line hline
    · exact hmore line hline

theorem endsLine_dropLast {source : List Line} (inlining : Inlining tree file source)
    (hsource : ∀ line ∈ source.dropLast, EndsLine isNewline line.text)
    (htargets : ∀ path ∈ inlining.targets, IsClosed tree path) :
    ∀ line ∈ inlining.lines.dropLast, EndsLine isNewline line.text := by
  induction inlining with
  | nil => exact hsource
  | @keep _ rest line plain next ih =>
      cases rest with
      | nil =>
          cases next
          exact hsource
      | cons second rest =>
          rw [List.dropLast_cons_cons, List.forall_mem_cons] at hsource
          have hfirst : ∀ l ∈ [line], EndsLine isNewline l.text := by simpa using hsource.1
          exact endsLine_dropLast_append hfirst (ih hsource.2 htargets)
  | skip name directive next ih =>
      exact ih (fun l hl => hsource l (mem_dropLast_cons hl)) htargets
  | splice reference directive target read body next ihbody ihnext =>
      simp only [targets, List.cons_append, List.forall_mem_cons, List.forall_mem_append] at htargets
      exact endsLine_dropLast_append
        (body.endsLine (endsLine_of_isClosed htargets.1 read) htargets.2.1)
        (ihnext (fun l hl => hsource l (mem_dropLast_cons hl)) htargets.2.2)

end Inlining

/-! ### What the resolver gives -/

/-- The files that a run has included are those of the records it has added. -/
theorem drop_records_after (s : Search) (visits : List Visit) :
    (after s visits).records.drop s.records.length = visits.filterMap Visit.record? := by
  simp [after]

/-- **Where resolved lines end.** When a file has been resolved, a line lacks a terminator exactly if it is
the last line of a file that ends in none. If the included files all end in a terminator, only the last
line may lack one. And written one after the other, the lines are read back as they were exactly if each is
parted from the next. -/
theorem resolveFile_boundaries {out : List Line}
    (h : ((resolveFile settings stack tree file).run s).result = .ok out) :
    (∀ line ∈ out, ¬ EndsLine isNewline line.text ↔ IsOpenEnd tree line) ∧
    ((∀ record ∈ ((resolveFile settings stack tree file).run s).state.records.drop s.records.length,
        IsClosed tree record.resolved) →
      ∀ line ∈ out.dropLast, EndsLine isNewline line.text) ∧
    (splitLines isNewline (out.map Line.text).flatten = out.map Line.text ↔
      (out.map Line.text).IsChain (Parts isNewline)) := by
  obtain ⟨-, hends⟩ := ends_resolveFile_ok.1 ⟨h, rfl⟩
  have hlines := isLineOf_of_ends hends
  refine ⟨fun line hline => (hlines line hline).not_endsLine_iff, fun hclosed => ?_, ?_⟩
  · obtain ⟨source, hread, inlining, rfl, -, -, hstate⟩ := exists_inlining_of_ends hends
    rw [hstate, drop_records_after] at hclosed
    obtain ⟨text, -, rfl⟩ := exists_of_readLines hread
    refine inlining.endsLine_dropLast endsLine_of_mem_dropLast fun path hpath => ?_
    rw [← inlining.map_resolved_visits 0] at hpath
    obtain ⟨record, hrecord, rfl⟩ := List.mem_map.1 hpath
    exact hclosed record hrecord
  · refine splitLines_flatten_iff fun t ht => ?_
    obtain ⟨line, hline, rfl⟩ := List.mem_map.1 ht
    exact splitLines_of_isLineOf (hlines line hline)

/-- The file `a` ends in no terminator and includes `p`, which ends in one, before its last line. -/
theorem resolveFile_boundaries_open_root :
    let tree : FileTree := ⟨[
      ({ names := [['a']] }, .file (some "1\n! include [](p)\n2".toList)),
      ({ names := [['p']] }, .file (some "3\r\n4\r".toList))]⟩
    let file : Path := ⟨0, [['a']]⟩
    let part : Path := ⟨0, [['p']]⟩
    let out : List Line := [⟨"1\n".toList, some file, 1⟩, ⟨"3\r\n".toList, some part, 1⟩,
      ⟨"4\r".toList, some part, 2⟩, ⟨['2'], some file, 3⟩]
    ((resolveFile { maxIncludeDepth := 1 } 9 tree file).run {}).result = .ok out ∧
    ((resolveFile { maxIncludeDepth := 1 } 9 tree file).run {}).state.records = [⟨['p'], part, 1⟩] ∧ IsClosed tree part ∧
    (∀ line ∈ out.dropLast, EndsLine isNewline line.text) ∧
    IsOpenEnd tree ⟨['2'], some file, 3⟩ ∧
    splitLines isNewline (out.map Line.text).flatten = out.map Line.text := by
  intro tree file part out
  have hresult : ((resolveFile { maxIncludeDepth := 1 } 9 tree file).run {}).result = .ok out := by decide +kernel
  have hrecords : ((resolveFile { maxIncludeDepth := 1 } 9 tree file).run {}).state.records = [⟨['p'], part, 1⟩] := by
    decide +kernel
  have hclosed : IsClosed tree part := by
    intro text htext
    have hread : tree.read part = .ok "3\r\n4\r".toList := by decide +kernel
    obtain rfl := Except.ok.inj (hread.symm.trans htext)
    exact .inr (by decide +kernel)
  obtain ⟨hopen, hterminated, hback⟩ := resolveFile_boundaries hresult
  refine ⟨hresult, hrecords, hclosed, hterminated ?_, (hopen _ (by simp [out])).1 (by decide +kernel),
    hback.2 (by decide +kernel)⟩
  rw [hrecords]
  rintro record hrecord
  obtain rfl := List.mem_singleton.1 hrecord
  exact hclosed

/-- A file without a terminator at its end, included before a line: the two lines become one when they are
written. -/
theorem resolveFile_joins_lines :
    let tree : FileTree := ⟨[
      ({ names := [['a']] }, .file (some "! include [](p)\n2\n".toList)),
      ({ names := [['p']] }, .file (some ['1']))]⟩
    let file : Path := ⟨0, [['a']]⟩
    let out : List Line := [⟨['1'], some ⟨0, [['p']]⟩, 1⟩, ⟨"2\n".toList, some file, 2⟩]
    ((resolveFile {} 9 tree file).run {}).result = .ok out ∧
    (∃ line ∈ out.dropLast, ¬ EndsLine isNewline line.text) ∧
    splitLines isNewline (out.map Line.text).flatten = ["12\n".toList] := by
  intro tree file out
  refine ⟨by decide +kernel, ⟨⟨['1'], some ⟨0, [['p']]⟩, 1⟩, by simp [out], by decide +kernel⟩,
    by decide +kernel⟩

end Include
end Literate
