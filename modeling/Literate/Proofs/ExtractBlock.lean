import Mathlib
import Literate.Proofs.Registered
import Literate.Proofs.Texts

/-! # Extracting a block

Lines of a document can be moved into a block of their own, and a reference put in their place, without
any change to what the document expands to (`expand_extracted_block`). The reference carries the
indentation that the lines had in common; expansion puts it back (`lineMeaning_indent`). One more level
of nesting is used up, for which there must be room (`expand_extracted_refused`), and the new block must
not take a name that was in use. -/

namespace Literate

open Text

namespace Expansion

/-! ### Indentation goes through expansion -/

section
variable {pre : Text}

/-- Put a text before every line, finished or in progress. -/
def shift (pre : Text) (done : List Text × Text) : List Text × Text :=
  (done.1.map (pre ++ ·), pre ++ done.2)

theorem put_shift (indent : Text) (done : List Text × Text) (piece : Piece) :
    piece.put (pre ++ indent) (shift pre done) = shift pre (piece.put indent done) := by
  cases piece with
  | literal t => simp [Piece.put, shift]
  | lines body =>
      cases body with
      | nil => rfl
      | cons first rest =>
          have hall : (pre ++ done.2 ++ first) :: rest.map (pre ++ indent ++ ·) =
              ((done.2 ++ first) :: rest.map (indent ++ ·)).map (pre ++ ·) := by
            simp
          simp only [Piece.put, shift]
          rw [hall]
          obtain ⟨init, last, hl⟩ : ∃ init last, (done.2 ++ first) :: rest.map (indent ++ ·) =
              init ++ [last] := ⟨_, _, (List.dropLast_append_getLast (List.cons_ne_nil _ _)).symm⟩
          simp [hl]

theorem foldl_put_shift (indent : Text) (pieces : List Piece) (done : List Text × Text) :
    pieces.foldl (Piece.put (pre ++ indent)) (shift pre done) =
      shift pre (pieces.foldl (Piece.put indent) done) := by
  induction pieces generalizing done with
  | nil => rfl
  | cons piece pieces ih => rw [List.foldl_cons, put_shift, ih, List.foldl_cons]

/-- A deeper indentation is put before every line that the pieces form. -/
theorem splice_indent (hpre : ∀ c ∈ pre, isIndent c = true) (indent : Text)
    (pieces : List Piece) :
    splice (pre ++ indent) pieces = (splice indent pieces).map (pre ++ ·) := by
  unfold splice
  have hstart : ([], pre ++ indent) = shift pre ([], indent) := rfl
  rw [hstart, foldl_put_shift]
  generalize pieces.foldl (Piece.put indent) ([], indent) = done
  obtain ⟨done, last⟩ := done
  have hblank : (strip (pre ++ last)).isEmpty = (strip last).isEmpty := by
    rw [Bool.eq_iff_iff, List.isEmpty_iff, List.isEmpty_iff, strip_eq_nil, strip_eq_nil]
    simp only [List.mem_append]
    exact ⟨fun h c hc => h c (.inr hc),
      fun h c hc => hc.elim (fun hc => isBlank_of_isIndent (hpre c hc)) (h c)⟩
  simp only [shift, hblank]
  split <;> simp

variable {d : Delimiters} {table : Table Text (List Text)} {registry : Registry}
  {inner : List Text → Except Fault (List Text)}

theorem segmentsOf_indent (hpre : ∀ c ∈ pre, isIndent c = true) (line : Text) :
    segmentsOf d (pre ++ line) = segmentsOf d line := by
  unfold segmentsOf
  rw [List.dropWhile_append_of_pos hpre]

/-- If an indented line expands, so does the line itself, to the same lines without the
indentation. -/
theorem lineMeaning_indent (hpre : ∀ c ∈ pre, isIndent c = true) {line : Text}
    {out : List Text} (h : lineMeaning d table registry inner (pre ++ line) = .ok out) :
    ∃ out', lineMeaning d table registry inner line = .ok out' ∧ out = out'.map (pre ++ ·) := by
  unfold lineMeaning at h ⊢
  rw [segmentsOf_indent hpre, List.takeWhile_append_of_pos hpre] at h
  split at h
  · next href =>
      obtain ⟨pieces, hpieces, hout⟩ := Result.bind_eq_ok.1 h
      refine ⟨splice (line.takeWhile isIndent) pieces, ?_, ?_⟩
      · rw [if_pos href, Result.bind_eq_ok]
        refine ⟨pieces, ?_, rfl⟩
        rw [Result.mapM_eq_ok] at hpieces ⊢
        exact hpieces.imp fun s piece hs =>
          segmentMeaning_mono (fun _ _ hb => hb) (fun _ _ hb => hb) hs
      · rw [← splice_indent hpre]
        exact (Except.ok.inj hout).symm
  · next href =>
      rw [if_neg href]
      exact ⟨[line], rfl, (Except.ok.inj h).symm⟩

theorem meaning_indent (hpre : ∀ c ∈ pre, isIndent c = true) {budget : Nat} {depth : Int}
    {lines out : List Text}
    (h : meaning d table registry (budget + 1) depth (lines.map (pre ++ ·)) = .ok out) :
    ∃ out', meaning d table registry (budget + 1) depth lines = .ok out' ∧
      out = out'.map (pre ++ ·) := by
  simp only [meaning_eq_ok, List.forall₂_map_left_iff] at h ⊢
  obtain ⟨parts, hparts, rfl⟩ := h
  -- every part is the indented form of a part of the lines themselves
  have hex : ∃ parts', List.Forall₂ (fun line part => lineMeaning d table registry
        (meaning d table registry budget (depth + 1)) line = .ok part) lines parts' ∧
      parts = parts'.map (List.map (pre ++ ·)) := by
    induction hparts with
    | nil => exact ⟨[], .nil, rfl⟩
    | cons hline _ ih =>
        obtain ⟨parts', hparts', rfl⟩ := ih
        obtain ⟨part', hpart', rfl⟩ := lineMeaning_indent hpre hline
        exact ⟨part' :: parts', .cons hpart' hparts', rfl⟩
  obtain ⟨parts', hparts', rfl⟩ := hex
  exact ⟨parts'.flatten, ⟨parts', hparts', rfl⟩, by rw [List.map_flatten]⟩

end

/-! ### The reference in place of the lines -/

/-- The line that refers to a block and holds nothing else. -/
def callLine (indent name : Text) : Text := indent ++ ('⦅' :: name ++ ['⦆', '\n'])

section
variable {table : Table Text (List Text)} {registry : Registry}
  {inner : List Text → Except Fault (List Text)} {indent name : Text}

theorem put_block (indent : Text) (init : List Text) (last : Text) :
    (Piece.lines (init ++ [last])).put indent ([], indent) =
      (init.map (indent ++ ·), indent ++ last) := by
  cases init with
  | nil => simp [Piece.put]
  | cons first rest =>
      have hall : (indent ++ first) :: (rest ++ [last]).map (indent ++ ·) =
          (first :: rest).map (indent ++ ·) ++ [indent ++ last] := by
        simp
      simp only [List.cons_append, Piece.put, hall, List.dropLast_concat, List.getLastD_concat,
        List.nil_append]

theorem splice_block (indent : Text) (init : List Text) (last t : Text) :
    splice indent [.lines (init ++ [last]), .literal t] =
      init.map (indent ++ ·) ++ [indent ++ last ++ t] := by
  unfold splice
  rw [List.foldl_cons, put_block]
  simp [Piece.put, Piece.produces]

theorem segmentsOf_callLine (hindent : ∀ c ∈ indent, isIndent c = true)
    (hname : Reference.IsName name) :
    segmentsOf {} (callLine indent name) =
      [.reference { name, raw := '⦅' :: name ++ ['⦆'] }, .literal ['\n']] := by
  have hclose : '⦆' ∉ name := by
    intro hm
    have : Reference.isTokenChar '⦆' = false := by decide +kernel
    rw [(hname.token _ hm).1] at this
    cases this
  have hstart : ('⦅' :: name ++ ['⦆', '\n']).dropWhile isIndent = '⦅' :: name ++ ['⦆', '\n'] := by
    rw [List.cons_append, List.dropWhile_cons_of_neg (by decide)]
  unfold callLine
  rw [segmentsOf_indent hindent, segmentsOf, hstart, Segment.tokenize,
    Segment.scan_named rfl rfl rfl hname hclose, Segment.scan_cons_of_ne (o := '⦅') rfl (by decide),
    Segment.scan]
  rfl

/-- A line that calls a block becomes the lines of the block, indented, with the terminator of the
line behind the last of them. -/
theorem lineMeaning_callLine (hindent : ∀ c ∈ indent, isIndent c = true)
    (hname : Reference.IsName name) {body init : List Text} {last : Text}
    (hbody : table.get? name = some body) (hinner : inner body = .ok (init ++ [last])) :
    lineMeaning {} table registry inner (callLine indent name) =
      .ok (init.map (indent ++ ·) ++ [indent ++ last ++ ['\n']]) := by
  have htake : (callLine indent name).takeWhile isIndent = indent := by
    unfold callLine
    rw [List.takeWhile_append_of_pos hindent, List.cons_append,
      List.takeWhile_cons_of_neg (by decide), List.append_nil]
  have hsegment : segmentMeaning table registry inner (callLine indent name)
      (.reference { name, raw := '⦅' :: name ++ ['⦆'] }) = .ok (.lines (init ++ [last])) := by
    simp only [segmentMeaning, hbody, hinner]
    exact Result.bind_eq_ok.2 ⟨_, rfl, Result.bind_eq_ok.2 ⟨_, registry.apply_nil _, rfl⟩⟩
  have hpieces : (segmentsOf {} (callLine indent name)).mapM
      (segmentMeaning table registry inner (callLine indent name)) =
      .ok [.lines (init ++ [last]), .literal ['\n']] := by
    rw [segmentsOf_callLine hindent hname, Result.mapM_eq_ok]
    exact .cons hsegment (.cons rfl .nil)
  have href : ((segmentsOf {} (callLine indent name)).any fun s => s.reference?.isSome) = true := by
    rw [segmentsOf_callLine hindent hname]
    rfl
  unfold lineMeaning
  rw [if_pos href, hpieces, htake]
  exact congrArg Except.ok (splice_block indent init last ['\n'])

/-- Without its terminator a line holds no reference that it does not hold with it. -/
theorem quiet_of_quiet_newline {line : Text}
    (h : Segment.Quiet (segmentsOf {} (line ++ ['\n']))) : Segment.Quiet (segmentsOf {} line) := by
  have hdrop : (line ++ ['\n']).dropWhile isIndent = line.dropWhile isIndent ++ ['\n'] := by
    rw [List.dropWhile_append]
    split
    · next hnil => rw [List.isEmpty_iff.1 hnil]; rfl
    · rfl
  unfold segmentsOf Segment.tokenize at h ⊢
  rw [hdrop] at h
  exact Segment.quiet_of_append rfl rfl ['\n'] h

end

/-! ### The whole document -/

theorem extends_set {table : Table Text (List Text)} {name : Text}
    (hnew : table.has name = false) (body : List Text) : Extends table (table.set name body) := by
  intro other lines h
  have hne : other ≠ name := by
    rintro rfl
    simp [Table.has, h] at hnew
  rw [Table.get?_set_of_ne table hne, h]

/-- Where lines mean something, the reference to the block that they have become means the same, one level
deeper. -/
theorem meaning_extracted {table : Table Text (List Text)} {registry : Registry} {budget : Nat}
    {indent name last : Text} {before body after out : List Text} (hname : Reference.IsName name)
    (hnew : table.has name = false) (hindent : ∀ c ∈ indent, isIndent c = true)
    (hlast : Segment.Quiet (segmentsOf {} (last ++ ['\n'])))
    (h : meaning {} table registry (budget + 1) 0
      (before ++ (body ++ [last ++ ['\n']]).map (indent ++ ·) ++ after) = .ok out) :
    meaning {} (table.set name (body ++ [last])) registry (budget + 1 + 1) 0
      (before ++ [callLine indent name] ++ after) = .ok out := by
  have hextends := extends_set hnew (body ++ [last])
  obtain ⟨outLines, outAfter, hlines, hafter, rfl⟩ := meaning_append_eq_ok.1 h
  obtain ⟨outBefore, outIndented, hbefore, hindented, rfl⟩ := meaning_append_eq_ok.1 hlines
  obtain ⟨outBlock, hblock, rfl⟩ := meaning_indent hindent hindented
  obtain ⟨outBody, outLast, hbody, hend, rfl⟩ := meaning_append_eq_ok.1 hblock
  obtain ⟨parts, hparts, rfl⟩ := meaning_eq_ok.1 hend
  rw [List.forall₂_cons_left_iff] at hparts
  obtain ⟨part, rest, hpart, hrest, rfl⟩ := hparts
  obtain rfl := List.forall₂_nil_left_iff.1 hrest
  obtain rfl := Except.ok.inj ((lineMeaning_of_quiet hlast).symm.trans hpart)
  have hinner : meaning {} (table.set name (body ++ [last])) registry (budget + 1) (0 + 1)
      (body ++ [last]) = .ok (outBody ++ [last]) := by
    refine meaning_append_eq_ok.2 ⟨outBody, [last], meaning_mono hextends le_rfl hbody, ?_, rfl⟩
    exact meaning_eq_ok.2
      ⟨[[last]], .cons (lineMeaning_of_quiet (quiet_of_quiet_newline hlast)) .nil, rfl⟩
  have hcall : lineMeaning {} _ registry _ (callLine indent name) = _ :=
    lineMeaning_callLine hindent hname (Table.get?_set_self table name (body ++ [last])) hinner
  refine meaning_append_eq_ok.2 ⟨_, outAfter, ?_, meaning_mono hextends (by omega) hafter, rfl⟩
  refine meaning_append_eq_ok.2
    ⟨outBefore, _, meaning_mono hextends (by omega) hbefore, ?_, rfl⟩
  exact meaning_eq_ok.2 ⟨[_], .cons hcall .nil, by simp⟩

/-- **Extracting a block.** Lines that have an indentation in common, the last of which is terminated
and holds no reference, may become a block with a new name, called by a reference with that
indentation: what expands within a bound expands to the same lines afterwards, with one level more, if
room can be made for that; otherwise it is refused. -/
theorem expand_extracted_block {σ : Type} {filters : Filters σ} {I : σ → Prop}
    {registry : Registry} (hpure : filters.PureOn I registry) {s : σ} (hs : I s) {settings : Settings}
    (hdelimiters : settings.delimiters = {}) {stack : Nat}
    {table : Table Text (List Text)} {name : Text} (hname : Reference.IsName name)
    (hnew : table.has name = false) {indent : Text} (hindent : ∀ c ∈ indent, isIndent c = true)
    (before body after : List Text) {last : Text}
    (hlast : Segment.Quiet (segmentsOf {} (last ++ ['\n']))) {maxDepth : Int} {out : List Text}
    (hok : ((expand (bounded settings maxDepth) stack (Scope.ofTable table filters)
      (.fixed (before ++ (body ++ [last ++ ['\n']]).map (indent ++ ·) ++ after))).run s).result =
        .ok out) :
    let result := ((expand (bounded settings (maxDepth + 1)) stack
      (Scope.ofTable (table.set name (body ++ [last])) filters)
      (.fixed (before ++ [callLine indent name] ++ after))).run s).result
    ((bounded settings (maxDepth + 1)).Fits stack → result = .ok out) ∧
      (¬(bounded settings (maxDepth + 1)).Fits stack → result = .error (.ofFailure noRoom)) := by
  refine ⟨fun hfits => ?_, expand_refused⟩
  have hsame (bound : Int) : (bounded settings bound).delimiters = {} := hdelimiters
  rw [expand_result hpure hs (fits_of_expand hok), hsame] at hok
  rw [expand_result hpure hs hfits, hsame]
  show meaning {} _ registry (budget (maxDepth + 1) 0) 0 _ = .ok out
  replace hok : meaning {} table registry (budget maxDepth 0) 0 _ = .ok out := hok
  cases hbudget : budget maxDepth 0 with
  | zero => simp [hbudget, meaning] at hok
  | succ k =>
      have hbudget' : budget (maxDepth + 1) 0 = k + 1 + 1 := by
        unfold budget at hbudget ⊢
        omega
      rw [hbudget] at hok
      rw [hbudget']
      exact meaning_extracted hname hnew hindent hlast hok

/-- A line with a filtered reference and the line below it become a block. -/
theorem expand_extracted_loop :
    let context := Script.Context.fresh "  ".toList
    let table : Table Text (List Text) := [("a".toList, ["x\n".toList, "y".toList])]
    let expanded := ["x\n", "y\n", "\t f(x,\n", "\t y,)\n", "\t end\n", "x\n", "y"].map String.toList
    ((expand (bounded {} 1) 9 (Scope.ofTable table Script.filters)
      (.fixed (["⦅a⦆\n".toList] ++ (["f(⦅a | add_comma⦆)\n".toList] ++
        ["end".toList ++ ['\n']]).map (['\t', ' '] ++ ·) ++ ["⦅a⦆".toList]))).run context).result =
      .ok expanded ∧
    ((expand (bounded {} (1 + 1)) 9 (Scope.ofTable (table.set ['l', 'o', 'o', 'p']
        (["f(⦅a | add_comma⦆)\n".toList] ++ ["end".toList])) Script.filters)
      (.fixed (["⦅a⦆\n".toList] ++ [callLine ['\t', ' '] ['l', 'o', 'o', 'p']] ++
        ["⦅a⦆".toList]))).run context).result = .ok expanded := by
  intro context table expanded
  have hname : Reference.IsName ['l', 'o', 'o', 'p'] := by decide
  have hquiet : Segment.Quiet (segmentsOf {} ("end".toList ++ ['\n'])) :=
    Segment.quiet_iff.2 (by cbv)
  have hfits : (bounded {} (1 + 1)).Fits 9 := by decide
  refine (fun hok => ⟨hok, ?_⟩) (by decide +kernel)
  have hdelimiters : ({} : Settings).delimiters = {} := rfl
  exact (expand_extracted_block (Script.filters_pureOn (Script.Context.fresh_builtinFilters _).plain) rfl
    hdelimiters hname (by decide) (List.all_eq_true.1 rfl) _ _ _ hquiet hok).1 hfits

/-- Where five calls have begun, a line expands under the largest bound that room can be made for. When it
becomes a block, the bound with one level more is refused. -/
theorem expand_extracted_refused :
    let result (table : Table Text (List Text)) (bound : Int) (line : Text) :=
      ((expand (bounded {} bound) 5 (Scope.ofTable table Script.filters) (.fixed [line])).run
        (Script.Context.fresh [])).result
    result [] 1073741571 "x\n".toList = .ok ["x\n".toList] ∧
      result [("b".toList, ["x".toList])] (1073741571 + 1) (callLine [] "b".toList) =
        .error (.ofFailure noRoom) := by
  decide +kernel

end Expansion
end Literate
