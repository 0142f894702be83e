import Mathlib
import Literate.Proofs.WholeLines

/-! # Splicing

What becomes of a line with references is put together from its literal spans and the lines of the blocks:
the first line of a block goes on where the reference stood, the others begin new lines with the indentation
of the line. Nothing is lost, doubled or moved by that (`lineAt_spliced`).

The output grows at its end, from the last line on. What holds after every piece is that each line so far
begins with the indentation, that the lines without it are the text of the pieces so far, and that there is
one line more than the pieces have begun (`Grown`). One piece keeps this (`Grown.put`), and so do all pieces
of a line (`Grown.foldl`). -/

namespace Literate.Expansion

open Text

variable {σ β : Type}

/-! ### What the segments of a line become -/

/-- One after the other, the segments of a line become pieces: a literal span stays, and a reference becomes
the lines of its block, expanded by `inner` and filtered. -/
inductive Expands (scope : Scope σ β) (inner : Body σ β → Run σ (List β)) :
    σ → List Segment → List Piece → σ → Prop
  | nil (s : σ) : Expands scope inner s [] [] s
  | literal {s s' : σ} (t : Text) {segments : List Segment} {pieces : List Piece}
      (hrest : Expands scope inner s segments pieces s') :
      Expands scope inner s (.literal t :: segments) (.literal t :: pieces) s'
  | reference {s s₁ s₂ s₃ s' : σ} {r : Reference} {body : Body σ β} {items : List β}
      {filtered : List Text} {segments : List Segment} {pieces : List Piece}
      (hbody : (scope.body? r.name).Ends s (.ok (some body)) s₁)
      (hinner : (inner body).Ends s₁ (.ok items) s₂)
      (hfilter : (scope.filter r.filters items).Ends s₂ (.ok filtered) s₃)
      (hrest : Expands scope inner s₃ segments pieces s') :
      Expands scope inner s (.reference r :: segments) (.lines filtered :: pieces) s'

theorem expands_of_ends {scope : Scope σ β} {inner : Body σ β → Run σ (List β)} {line : Text} :
    ∀ {segments : List Segment} {s s' : σ} {pieces : List Piece},
      (segments.mapM (expandSegment scope inner line)).Ends s (.ok pieces) s' →
      Expands scope inner s segments pieces s'
  | [], s, s', pieces, h => by
      rw [List.mapM_nil, Run.ends_pure_iff] at h
      obtain ⟨hpieces, rfl⟩ := h
      cases hpieces
      exact .nil s'
  | segment :: segments, s, s', pieces, h => by
      rw [List.mapM_cons, Run.ends_bind_ok] at h
      obtain ⟨piece, s₃, hpiece, h⟩ := h
      obtain ⟨others, s₄, hothers, h⟩ := Run.ends_bind_ok.1 h
      obtain ⟨hpieces, rfl⟩ := Run.ends_pure_iff.1 h
      cases hpieces
      have hrest := expands_of_ends hothers
      cases segment with
      | literal t =>
          obtain ⟨hliteral, rfl⟩ := Run.ends_pure_iff.1 hpiece
          cases hliteral
          exact .literal t hrest
      | reference r =>
          rw [expandSegment, Run.ends_bind_ok] at hpiece
          obtain ⟨found, s₁, hbody, hpiece⟩ := hpiece
          cases found with
          | none => cases hpiece.1
          | some body =>
              obtain ⟨items, s₂, hinner, hpiece⟩ := Run.ends_bind_ok.1 hpiece
              obtain ⟨filtered, s₅, hfilter, hpiece⟩ := Run.ends_bind_ok.1 hpiece
              obtain ⟨hlines, rfl⟩ := Run.ends_pure_iff.1 hpiece
              cases hlines
              exact .reference hbody hinner hfilter hrest

/-! ### Growing the output -/

/-- The text of a piece. -/
def Piece.text : Piece → Text
  | .literal t => t
  | .lines body => body.flatten

/-- How many lines a piece begins. -/
def Piece.begun : Piece → Nat
  | .literal _ => 0
  | .lines body => body.length - 1

/-- The finished lines and the line in progress begin with the indentation. There are as many finished lines
as have been begun, and behind the indentation the lines hold a text. -/
def Grown (indent : Text) (done : List Text × Text) (text : Text) (begun : Nat) : Prop :=
  ∃ (finished : List Text) (last : Text), done = (finished.map (indent ++ ·), indent ++ last) ∧
    finished.length = begun ∧ finished.flatten ++ last = text

variable {indent text : Text} {done : List Text × Text} {begun : Nat} {pieces : List Piece}

theorem grown_start (indent : Text) : Grown indent ([], indent) [] 0 :=
  ⟨[], [], by rw [List.map_nil, List.append_nil], rfl, rfl⟩

theorem Grown.put (h : Grown indent done text begun) (piece : Piece) :
    Grown indent (piece.put indent done) (text ++ piece.text) (begun + piece.begun) := by
  obtain ⟨finished, last, rfl, rfl, rfl⟩ := h
  cases piece with
  | literal t => exact ⟨finished, last ++ t, by simp [Piece.put], rfl, by simp [Piece.text]⟩
  | lines body =>
      cases body with
      | nil => exact ⟨finished, last, rfl, rfl, by simp [Piece.text]⟩
      | cons head tail =>
          obtain ⟨init, final, hall⟩ : ∃ init final, (last ++ head) :: tail = init ++ [final] :=
            (List.eq_nil_or_concat' _).resolve_left (List.cons_ne_nil _ _)
          have hindented : (indent ++ last ++ head) :: tail.map (indent ++ ·) =
              init.map (indent ++ ·) ++ [indent ++ final] := by
            have hmap := congrArg (List.map (indent ++ ·)) hall
            simpa using hmap
          have hlength : tail.length = init.length := by
            have hcount := congrArg List.length hall
            simpa using hcount
          have htext : last ++ (head ++ tail.flatten) = init.flatten ++ final := by
            have hflat := congrArg List.flatten hall
            simpa using hflat
          refine ⟨finished ++ init, final, ?_, ?_, ?_⟩
          · rw [Piece.put, hindented, List.dropLast_concat, List.getLastD_concat, List.map_append]
          · rw [List.length_append, Piece.begun, List.length_cons, Nat.add_sub_cancel, hlength]
          · rw [List.flatten_append, List.append_assoc, ← htext, Piece.text, List.flatten_cons,
              List.append_assoc]

theorem Grown.foldl (h : Grown indent done text begun) (pieces : List Piece) :
    Grown indent (pieces.foldl (Piece.put indent) done) (text ++ pieces.flatMap Piece.text)
      (begun + (pieces.map Piece.begun).sum) := by
  induction pieces generalizing done text begun with
  | nil => simpa using h
  | cons piece pieces ih =>
      have hnext := ih (h.put piece)
      rw [List.foldl_cons, List.flatMap_cons, List.map_cons, List.sum_cons, ← List.append_assoc,
        ← Nat.add_assoc]
      exact hnext

/-- Spliced lines that are not dropped begin with the indentation, hold the text of the pieces behind it,
and are one more than the pieces have begun. -/
theorem exists_splice (h : splice indent pieces ≠ []) :
    ∃ rests : List Text, splice indent pieces = rests.map (indent ++ ·) ∧
      rests.length = 1 + (pieces.map Piece.begun).sum ∧ rests.flatten = pieces.flatMap Piece.text := by
  obtain ⟨finished, last, hdone, hlength, htext⟩ := (grown_start indent).foldl pieces
  unfold splice at h ⊢
  dsimp only at h ⊢
  split at h
  · exact absurd rfl h
  · next hkept =>
      refine ⟨finished ++ [last], ?_, ?_, ?_⟩
      · rw [if_neg hkept, hdone, List.map_append, List.map_singleton]
      · rw [List.length_append, List.length_singleton, hlength]
        omega
      · rw [List.flatten_append, List.flatten_singleton, htext, List.nil_append]

/-- Pieces form no line if no reference has produced any and there is only white space between them. -/
theorem splice_eq_nil_iff_blank (hindent : ∀ c ∈ indent, isIndent c = true) :
    splice indent pieces = [] ↔
      (∀ body, .lines body ∈ pieces → body = []) ∧ ∀ c ∈ pieces.flatMap Piece.span, isBlank c = true := by
  rw [splice_eq_nil_iff hindent]
  constructor
  · intro h
    refine ⟨fun body hbody => h _ hbody, fun c hc => ?_⟩
    obtain ⟨piece, hpiece, hc⟩ := List.mem_flatMap.1 hc
    exact (Piece.vanishes_iff.1 (h piece hpiece)).2 c hc
  · rintro ⟨hlines, hblank⟩ piece hpiece
    cases piece with
    | literal t => exact fun c hc => hblank c (List.mem_flatMap.2 ⟨_, hpiece, hc⟩)
    | lines body => exact hlines body hpiece

/-- A line with references, expanded within a bound, is put together from its literal spans and the expanded
and filtered lines of its references. Nothing is left of it if and only if no reference gives a line and the
literal spans are white space. Otherwise there is one line, and a further one for every line but the first of
a reference; every line begins with the indentation of the line; and behind it, the lines hold the text of
the literal spans and of the references in the order of the line. -/
theorem lineAt_spliced (d : Delimiters) (scope : Scope σ β) (maxDepth depth : Int) (line : Text)
    (s s' : σ) (out : List Text) (hreference : ∃ r, .reference r ∈ segmentsOf d line)
    (h : (lineAt d scope maxDepth depth line).Ends s (.ok out) s') :
    ∃ pieces,
      Expands scope (bodyAt d scope maxDepth (depth + 1)) s (segmentsOf d line) pieces s' ∧
      (out = [] ↔ (∀ body, .lines body ∈ pieces → body = []) ∧
        ∀ c ∈ pieces.flatMap Piece.span, isBlank c = true) ∧
      (out ≠ [] → out.length = 1 + (pieces.map Piece.begun).sum ∧
        (∀ l ∈ out, line.takeWhile isIndent <+: l) ∧
        (out.map (List.drop (line.takeWhile isIndent).length)).flatten =
          pieces.flatMap Piece.text) := by
  have hany : ((segmentsOf d line).any fun segment => segment.reference?.isSome) = true := by
    obtain ⟨r, hr⟩ := hreference
    exact List.any_eq_true.2 ⟨_, hr, rfl⟩
  unfold lineAt expandLine at h
  dsimp only at h
  rw [← segmentsOf, if_pos hany, Run.ends_bind_ok] at h
  obtain ⟨pieces, t, hpieces, hout⟩ := h
  obtain ⟨hsplice, rfl⟩ := Run.ends_pure_iff.1 hout
  cases hsplice
  refine ⟨pieces, expands_of_ends hpieces,
    splice_eq_nil_iff_blank fun c hc => List.mem_takeWhile_imp hc, fun hne => ?_⟩
  obtain ⟨rests, hlines, hlength, htext⟩ := exists_splice hne
  rw [hlines]
  refine ⟨by rw [List.length_map, hlength], fun l hl => ?_, ?_⟩
  · obtain ⟨rest, -, rfl⟩ := List.mem_map.1 hl
    exact List.prefix_append _ _
  · have hdrop : (rests.map (line.takeWhile isIndent ++ ·)).map
        (List.drop (line.takeWhile isIndent).length) = rests := by
      rw [List.map_map]
      exact (List.map_congr_left fun rest _ => List.drop_left).trans (List.map_id _)
    rw [hdrop, htext]

/-- A block of two lines, an empty one and one that is filtered, on one line. -/
theorem lineAt_spliced_three :
    ∃ (s' : Script.Context) (pieces : List Piece),
      (lineAt {} (Scope.ofTable [(['x'], ["1\n".toList, ['2']]), (['e'], []), (['y'], [['p']])]
        Script.filters) 3 0 "\t a⦅x⦆ ⦅e⦆b⦅y|add_comma⦆\n".toList).Ends (Script.Context.fresh [])
          (.ok ["\t a1\n".toList, "\t 2 bp,\n".toList]) s' ∧
      (∃ r, .reference r ∈ segmentsOf {} "\t a⦅x⦆ ⦅e⦆b⦅y|add_comma⦆\n".toList) ∧
      1 + (pieces.map Piece.begun).sum = 2 ∧ pieces.flatMap Piece.text = "a1\n2 bp,\n".toList := by
  have hsegments : segmentsOf {} "\t a⦅x⦆ ⦅e⦆b⦅y|add_comma⦆\n".toList =
      [.literal ['a'], .reference { name := ['x'], raw := "⦅x⦆".toList }, .literal [' '],
        .reference { name := ['e'], raw := "⦅e⦆".toList }, .literal ['b'],
        .reference { name := ['y'], filters := ["add_comma".toList], raw := "⦅y|add_comma⦆".toList },
        .literal ['\n']] := by cbv
  have hreference : ∃ r, .reference r ∈ segmentsOf {} "\t a⦅x⦆ ⦅e⦆b⦅y|add_comma⦆\n".toList := by
    rw [hsegments]
    exact ⟨_, List.mem_cons_of_mem _ List.mem_cons_self⟩
  have hresult : ((lineAt {} (Scope.ofTable [(['x'], ["1\n".toList, ['2']]), (['e'], []), (['y'], [['p']])]
      Script.filters) 3 0 "\t a⦅x⦆ ⦅e⦆b⦅y|add_comma⦆\n".toList).run (Script.Context.fresh [])).result =
        .ok ["\t a1\n".toList, "\t 2 bp,\n".toList] := by cbv
  have hends := Run.ends_self (lineAt {} (Scope.ofTable [(['x'], ["1\n".toList, ['2']]), (['e'], []),
    (['y'], [['p']])] Script.filters) 3 0 "\t a⦅x⦆ ⦅e⦆b⦅y|add_comma⦆\n".toList) (Script.Context.fresh [])
  rw [hresult] at hends
  obtain ⟨pieces, -, -, hkept⟩ := lineAt_spliced _ _ _ _ _ _ _ _ hreference hends
  obtain ⟨hlength, -, htext⟩ := hkept (by decide)
  exact ⟨_, pieces, hends, hreference, hlength.symm, htext.symm⟩

end Literate.Expansion
