import Mathlib
import Literate.Block
import Literate.Proofs.DepthBound
import Literate.Proofs.ExtractBlock

/-! # Whole lines

In a document of terminated lines, a line feed only ever ends a line. Blocks keep it so: their last line
loses its terminator (`Block.laid_of_assemble`), so that a block can stand in the middle of a line, where
the text behind the reference goes on after the last line of the block (`put_laid`).

A line of references and blanks disappears if nothing comes of it, and the lines that do so can be told
beforehand (`Vanishes`, `eq_nil_iff_of_meaning`). Where it is the last line of a block, and others before
it stay, the block ends in a terminator after all. If no block is like that (`KeepsEnd`), expansion
without filters gives whole lines (`expand_whole_lines`); if one is, a line feed may get into the middle
of a line (`expand_broken_line`). -/

namespace Literate

open Text

/-! ### Texts that are lines -/

namespace Text

variable {a b t : Text}

/-- A line feed stands at most at the end of the text. -/
def IsLine (t : Text) : Prop := '\n' ∉ t.dropLast

theorem isLine_of_not_mem (h : '\n' ∉ t) : IsLine t := fun hm => h (List.mem_of_mem_dropLast hm)

theorem isLine_append (ha : '\n' ∉ a) (hb : IsLine b) : IsLine (a ++ b) := by
  cases b with
  | nil =>
      rw [List.append_nil]
      exact isLine_of_not_mem ha
  | cons c cs =>
      unfold IsLine
      rw [List.dropLast_append_of_ne_nil (List.cons_ne_nil c cs), List.mem_append, not_or]
      exact ⟨ha, hb⟩

theorem IsLine.front (h : IsLine (a ++ b)) (hb : b ≠ []) : '\n' ∉ a := by
  unfold IsLine at h
  rw [List.dropLast_append_of_ne_nil hb] at h
  exact fun hm => h (List.mem_append_left _ hm)

theorem IsLine.back (h : IsLine (a ++ b)) : IsLine b := by
  cases b with
  | nil => exact isLine_of_not_mem (by simp)
  | cons c cs =>
      unfold IsLine at h ⊢
      rw [List.dropLast_append_of_ne_nil (List.cons_ne_nil c cs)] at h
      exact fun hm => h (List.mem_append_right _ hm)

/-- The text ends in a line feed and holds no other. -/
def Terminated (t : Text) : Prop := t.getLast? = some '\n' ∧ IsLine t

instance (t : Text) : Decidable (IsLine t) := inferInstanceAs (Decidable ('\n' ∉ t.dropLast))

instance (t : Text) : Decidable (Terminated t) := inferInstanceAs (Decidable (_ ∧ _))

theorem not_mem_of_isIndent (h : ∀ c ∈ t, isIndent c = true) : '\n' ∉ t := by
  intro hm
  cases h _ hm

end Text

namespace Expansion

variable {d : Delimiters} {table : Table Text (List Text)} {registry : Registry}
  {inner : List Text → Except Fault (List Text)} {line indent : Text}

/-! ### Lines of a block put in the place of a reference -/

/-- Every one is a line, and the last of them is not terminated. -/
structure Laid (lines : List Text) : Prop where
  isLine : ∀ t ∈ lines, IsLine t
  last : ∀ t, lines.getLast? = some t → '\n' ∉ t

/-- A segment and what it has become. -/
inductive Fits : Segment → Piece → Prop
  | literal (t : Text) : Fits (.literal t) (.literal t)
  | reference (r : Reference) {body : List Text} (h : Laid body) : Fits (.reference r) (.lines body)

theorem put_laid (hindent : '\n' ∉ indent) {done : List Text × Text} {body : List Text}
    (hdone : ∀ t ∈ done.1, IsLine t) (hlast : '\n' ∉ done.2) (h : Laid body) :
    (∀ t ∈ ((Piece.lines body).put indent done).1, IsLine t) ∧
      '\n' ∉ ((Piece.lines body).put indent done).2 := by
  cases body with
  | nil => exact ⟨hdone, hlast⟩
  | cons first rest =>
      have hfirst : IsLine (done.2 ++ first) := isLine_append hlast (h.isLine first (by simp))
      rcases List.eq_nil_or_concat rest with rfl | ⟨middle, last, rfl⟩
      · have hopen := h.last first rfl
        simp only [Piece.put, List.map_nil, List.dropLast_singleton, List.append_nil,
          List.getLastD_cons, List.getLastD_nil, List.mem_append, not_or]
        exact ⟨hdone, hlast, hopen⟩
      · have hopen : '\n' ∉ last := by
          refine h.last last ?_
          rw [List.concat_eq_append, ← List.cons_append, List.getLast?_concat]
        have hall : (done.2 ++ first) :: (middle ++ [last]).map (indent ++ ·) =
            ((done.2 ++ first) :: middle.map (indent ++ ·)) ++ [indent ++ last] := by simp
        simp only [List.concat_eq_append, Piece.put, hall, List.dropLast_concat,
          List.getLastD_concat]
        refine ⟨fun t ht => ?_, by simp [hindent, hopen]⟩
        rcases List.mem_append.1 ht with ht | ht
        · exact hdone t ht
        rcases List.mem_cons.1 ht with rfl | ht
        · exact hfirst
        obtain ⟨u, hu, rfl⟩ := List.mem_map.1 ht
        exact isLine_append hindent (h.isLine u (by simp [hu]))

/-- Line feeds reach the end of the line in progress only from the end of the text. -/
theorem foldl_put_fits (hindent : '\n' ∉ indent) {segments : List Segment} {pieces : List Piece}
    (hfits : List.Forall₂ Fits segments pieces) : ∀ {done : List Text × Text},
    (∀ s ∈ segments, s.raw ≠ []) → IsLine (segments.flatMap Segment.raw) →
    (∀ t ∈ done.1, IsLine t) → '\n' ∉ done.2 →
    (∀ t ∈ (pieces.foldl (Piece.put indent) done).1, IsLine t) ∧
      IsLine (pieces.foldl (Piece.put indent) done).2 ∧
      ('\n' ∉ segments.flatMap Segment.raw → '\n' ∉ (pieces.foldl (Piece.put indent) done).2) := by
  induction hfits with
  | nil => exact fun _ _ hdone hlast => ⟨hdone, isLine_of_not_mem hlast, fun _ => hlast⟩
  | @cons s piece segments pieces hfit hrest ih =>
      intro done hraw hline hdone hlast
      rw [List.forall_mem_cons] at hraw
      rw [List.flatMap_cons] at hline ⊢
      rw [List.foldl_cons, List.mem_append, not_or]
      cases hfit with
      | reference r h =>
          obtain ⟨hdone', hlast'⟩ := put_laid hindent hdone hlast h
          obtain ⟨h₁, h₂, h₃⟩ := ih hraw.2 hline.back hdone' hlast'
          exact ⟨h₁, h₂, fun hn => h₃ hn.2⟩
      | literal t =>
          cases hrest with
          | nil =>
              rw [List.flatMap_nil, List.append_nil] at hline
              refine ⟨hdone, isLine_append hlast hline, fun hn => ?_⟩
              simp only [List.foldl_nil, Piece.put, List.mem_append, not_or]
              exact ⟨hlast, hn.1⟩
          | @cons s' piece' segments pieces _ _ =>
              have ht : '\n' ∉ t := by
                refine hline.front ?_
                rw [List.flatMap_cons]
                exact List.append_ne_nil_of_left_ne_nil (hraw.2 s' List.mem_cons_self) _
              have hlast' : '\n' ∉ ((Piece.literal t).put indent done).2 := by
                simp only [Piece.put, List.mem_append, not_or]
                exact ⟨hlast, ht⟩
              have hdone' : ∀ u ∈ ((Piece.literal t).put indent done).1, IsLine u := hdone
              obtain ⟨h₁, h₂, h₃⟩ := ih hraw.2 hline.back hdone' hlast'
              exact ⟨h₁, h₂, fun hn => h₃ hn.2⟩

theorem splice_fits (hindent : '\n' ∉ indent) {segments : List Segment} {pieces : List Piece}
    (hfits : List.Forall₂ Fits segments pieces) (hraw : ∀ s ∈ segments, s.raw ≠ [])
    (hline : IsLine (segments.flatMap Segment.raw)) :
    (∀ t ∈ splice indent pieces, IsLine t) ∧
      ('\n' ∉ segments.flatMap Segment.raw → Laid (splice indent pieces)) := by
  have hnone : ∀ t ∈ ([], indent).1, IsLine t := by simp
  obtain ⟨hdone, hlast, hopen⟩ := foldl_put_fits hindent hfits hraw hline hnone hindent
  have hall : ∀ t ∈ splice indent pieces, IsLine t := by
    unfold splice
    dsimp only
    split
    · simp
    · intro t ht
      rcases List.mem_append.1 ht with ht | ht
      · exact hdone t ht
      · rw [List.mem_singleton.1 ht]
        exact hlast
  refine ⟨hall, fun hn => ⟨hall, fun t ht => ?_⟩⟩
  unfold splice at ht
  dsimp only at ht
  split at ht
  · cases ht
  · rw [List.getLast?_concat] at ht
    rw [← Option.some.inj ht]
    exact hopen hn

/-- The piece that a reference without filters has become holds what its block expands to. -/
theorem segmentMeaning_reference {r : Reference} (hfilters : r.filters = []) {piece : Piece}
    (h : segmentMeaning table registry inner line (.reference r) = .ok piece) :
    ∃ body expanded, table.get? r.name = some body ∧ inner body = .ok expanded ∧
      piece = .lines expanded := by
  unfold segmentMeaning at h
  cases hbody : table.get? r.name with
  | none => simp [hbody] at h
  | some body =>
      simp only [hbody, Result.bind_eq_ok] at h
      obtain ⟨expanded, hexpanded, filtered, hfiltered, hpiece⟩ := h
      rw [hfilters, Registry.apply_nil] at hfiltered
      rw [← Except.ok.inj hpiece, ← Except.ok.inj hfiltered]
      exact ⟨body, expanded, rfl, hexpanded, rfl⟩

/-- A line becomes lines, if blocks do, and the last of them is terminated only if the line is. -/
theorem isLine_of_lineMeaning {out : List Text} (hline : IsLine line)
    (hfilters : ∀ r, .reference r ∈ segmentsOf d line → r.filters = [])
    (hinner : ∀ name body expanded, table.get? name = some body → inner body = .ok expanded →
      Laid expanded)
    (h : lineMeaning d table registry inner line = .ok out) :
    (∀ t ∈ out, IsLine t) ∧ ('\n' ∉ line → Laid out) := by
  have htext := takeWhile_append_segments d line
  have hindent : '\n' ∉ line.takeWhile isIndent :=
    not_mem_of_isIndent fun c hc => List.mem_takeWhile_imp hc
  unfold lineMeaning at h
  split at h
  · obtain ⟨pieces, hpieces, hout⟩ := Result.bind_eq_ok.1 h
    have hfits : List.Forall₂ Fits (segmentsOf d line) pieces := by
      rw [Result.mapM_eq_ok] at hpieces
      refine ((List.forall₂_and_left _ _).2 ⟨fun s hs => hs, hpieces⟩).imp ?_
      rintro (t | r) piece ⟨hs, hpiece⟩
      · rw [← Except.ok.inj hpiece]
        exact .literal t
      · obtain ⟨body, expanded, hbody, hexpanded, rfl⟩ :=
          segmentMeaning_reference (hfilters r hs) hpiece
        exact .reference r (hinner r.name body expanded hbody hexpanded)
    have hrest : IsLine ((segmentsOf d line).flatMap Segment.raw) := by
      rw [← htext] at hline
      exact hline.back
    obtain ⟨hall, hlaid⟩ := splice_fits hindent hfits (Segment.flatMap_raw_scan d none _).2 hrest
    rw [← Except.ok.inj hout]
    refine ⟨hall, fun hn => hlaid fun hm => hn ?_⟩
    rw [← htext]
    exact List.mem_append_right _ hm
  · rw [← Except.ok.inj h]
    refine ⟨by simpa using hline, fun hn => ⟨by simpa using hline, ?_⟩⟩
    simpa using hn

/-! ### Lines that disappear -/

/-- A line of references and blanks disappears if all lines of the blocks it refers to do. -/
inductive Vanishes (d : Delimiters) (table : Table Text (List Text)) : Text → Prop
  | intro {line : Text} (hrefers : ∃ r, .reference r ∈ segmentsOf d line)
      (hblank : ∀ t, .literal t ∈ segmentsOf d line → ∀ c ∈ t, isBlank c = true)
      (hblocks : ∀ r, .reference r ∈ segmentsOf d line → ∀ l ∈ target table r, Vanishes d table l) :
      Vanishes d table line

/-- A segment that leaves nothing behind. -/
def SegmentVanishes (d : Delimiters) (table : Table Text (List Text)) : Segment → Prop
  | .literal t => ∀ c ∈ t, isBlank c = true
  | .reference r => ∀ l ∈ target table r, Vanishes d table l

theorem vanishes_iff : Vanishes d table line ↔
    (∃ r, .reference r ∈ segmentsOf d line) ∧ ∀ s ∈ segmentsOf d line, SegmentVanishes d table s := by
  constructor
  · rintro ⟨hrefers, hblank, hblocks⟩
    refine ⟨hrefers, fun s hs => ?_⟩
    cases s with
    | literal t => exact hblank t hs
    | reference r => exact hblocks r hs
  · rintro ⟨hrefers, hall⟩
    exact ⟨hrefers, fun t ht => hall (.literal t) ht, fun r hr => hall (.reference r) hr⟩

/-- A piece that leaves nothing behind. -/
def Piece.Vanishes : Piece → Prop
  | .literal t => ∀ c ∈ t, isBlank c = true
  | .lines body => body = []

/-- The text of a literal span. -/
def Piece.span : Piece → Text
  | .literal t => t
  | .lines _ => []

/-- Pieces that produce nothing only leave their literal spans. -/
theorem foldl_put_of_not_produces {pieces : List Piece} (h : ∀ p ∈ pieces, p.produces = false) :
    ∀ done : List Text × Text, pieces.foldl (Piece.put indent) done =
      (done.1, done.2 ++ pieces.flatMap Piece.span) := by
  induction pieces with
  | nil => simp
  | cons piece pieces ih =>
      intro done
      rw [List.forall_mem_cons] at h
      rw [List.foldl_cons, ih h.2, List.flatMap_cons]
      cases piece with
      | literal t => simp [Piece.put, Piece.span]
      | lines body =>
          have hbody : body = [] := by simpa [Piece.produces] using h.1
          rw [hbody]
          rfl

theorem Piece.vanishes_iff {piece : Piece} :
    piece.Vanishes ↔ piece.produces = false ∧ ∀ c ∈ piece.span, isBlank c = true := by
  cases piece with
  | literal t => simp [Piece.Vanishes, Piece.produces, Piece.span]
  | lines body => simp [Piece.Vanishes, Piece.produces, Piece.span]

/-- Pieces form no line exactly if none of them leaves anything behind. -/
theorem splice_eq_nil_iff (hindent : ∀ c ∈ indent, isIndent c = true) {pieces : List Piece} :
    splice indent pieces = [] ↔ ∀ p ∈ pieces, p.Vanishes := by
  have hspans : (∀ p ∈ pieces, p.produces = false) →
      ((strip (pieces.foldl (Piece.put indent) ([], indent)).2).isEmpty = true ↔
        ∀ p ∈ pieces, ∀ c ∈ p.span, isBlank c = true) := by
    intro hproduces
    rw [foldl_put_of_not_produces hproduces, List.isEmpty_iff, strip_eq_nil]
    simp only [List.mem_append, List.mem_flatMap]
    constructor
    · exact fun h p hp c hc => h c (.inr ⟨p, hp, hc⟩)
    · rintro h c (hc | ⟨p, hp, hc⟩)
      · exact isBlank_of_isIndent (hindent c hc)
      · exact h p hp c hc
  have hany : (!pieces.any Piece.produces) = true ↔ ∀ p ∈ pieces, p.produces = false := by simp
  simp only [Piece.vanishes_iff]
  unfold splice
  dsimp only
  constructor
  · intro h
    split at h
    · next hcond =>
        rw [Bool.and_eq_true] at hcond
        have hproduces := hany.1 hcond.1
        exact fun p hp => ⟨hproduces p hp, (hspans hproduces).1 hcond.2 p hp⟩
    · exact absurd h (List.append_ne_nil_of_right_ne_nil _ (List.cons_ne_nil _ _))
  · intro h
    have hproduces : ∀ p ∈ pieces, p.produces = false := fun p hp => (h p hp).1
    rw [if_pos]
    rw [Bool.and_eq_true]
    exact ⟨hany.2 hproduces, (hspans hproduces).2 fun p hp => (h p hp).2⟩

theorem forall_iff_of_forall₂ {α β : Type} {R : α → β → Prop} {P : α → Prop} {Q : β → Prop}
    (hR : ∀ a b, R a b → (P a ↔ Q b)) {l : List α} {u : List β} (h : List.Forall₂ R l u) :
    (∀ a ∈ l, P a) ↔ ∀ b ∈ u, Q b := by
  induction h with
  | nil => simp
  | cons hab _ ih => rw [List.forall_mem_cons, List.forall_mem_cons, hR _ _ hab, ih]

theorem forall_mem_of_forall₂ {α β : Type} {R : α → β → Prop} {Q : β → Prop} {l : List α}
    {u : List β} (h : List.Forall₂ R l u) (hR : ∀ a ∈ l, ∀ b, R a b → Q b) : ∀ b ∈ u, Q b := by
  induction h with
  | nil => simp
  | cons hab _ ih =>
      rw [List.forall_mem_cons] at hR ⊢
      exact ⟨hR.1 _ hab, ih hR.2⟩

theorem eq_nil_iff_of_lineMeaning {out : List Text}
    (hfilters : ∀ r, .reference r ∈ segmentsOf d line → r.filters = [])
    (hinner : ∀ r body expanded, .reference r ∈ segmentsOf d line →
      table.get? r.name = some body → inner body = .ok expanded →
      (expanded = [] ↔ ∀ l ∈ body, Vanishes d table l))
    (h : lineMeaning d table registry inner line = .ok out) : out = [] ↔ Vanishes d table line := by
  have hindent : ∀ c ∈ line.takeWhile isIndent, isIndent c = true :=
    fun c hc => List.mem_takeWhile_imp hc
  unfold lineMeaning at h
  split at h
  · next href =>
      obtain ⟨pieces, hpieces, hout⟩ := Result.bind_eq_ok.1 h
      have hrefers : ∃ r, .reference r ∈ segmentsOf d line := by
        obtain ⟨s, hs, hsome⟩ := List.any_eq_true.1 href
        cases s with
        | literal t => cases hsome
        | reference r => exact ⟨r, hs⟩
      rw [Result.mapM_eq_ok] at hpieces
      have hsegments := (List.forall₂_and_left _ _).2
        ⟨fun s (hs : s ∈ segmentsOf d line) => hs, hpieces⟩
      have hvanish := forall_iff_of_forall₂ (P := SegmentVanishes d table) (Q := Piece.Vanishes)
        (fun s piece h => by
          obtain ⟨hs, hpiece⟩ := h
          cases s with
          | literal t =>
              rw [← Except.ok.inj hpiece]
              exact Iff.rfl
          | reference r =>
              obtain ⟨body, expanded, hbody, hexpanded, rfl⟩ :=
                segmentMeaning_reference (hfilters r hs) hpiece
              have htarget : target table r = body := by
                unfold target
                rw [hbody]
                rfl
              show (∀ l ∈ target table r, Vanishes d table l) ↔ expanded = []
              rw [htarget]
              exact (hinner r body expanded hs hbody hexpanded).symm) hsegments
      rw [← Except.ok.inj hout, splice_eq_nil_iff hindent, ← hvanish, vanishes_iff]
      exact ⟨fun hall => ⟨hrefers, hall⟩, fun hall => hall.2⟩
  · next href =>
      rw [← Except.ok.inj h]
      refine ⟨fun hnil => absurd hnil (List.cons_ne_nil _ _), fun hvanish => ?_⟩
      obtain ⟨⟨r, hr⟩, -⟩ := vanishes_iff.1 hvanish
      exact absurd (List.any_eq_true.2 ⟨_, hr, rfl⟩) href

/-! ### Whole expansions -/

/-- No reference on the lines has filters. -/
def Unfiltered (d : Delimiters) (lines : List Text) : Prop := ∀ r, Refers d lines r → r.filters = []

theorem unfiltered_of_all {lines : List Text} (h : (lines.all fun line =>
    (segmentsOf d line).all fun s => s.reference?.all fun r => r.filters.isEmpty) = true) :
    Unfiltered d lines := by
  rintro r ⟨line, hline, hr⟩
  have hsegments := List.all_eq_true.1 h line hline
  have hfilters := List.all_eq_true.1 hsegments _ hr
  simpa [Segment.reference?] using hfilters

/-- Lines that do not lose their last line alone: if that disappears, all of them do. -/
def KeepsEnd (d : Delimiters) (table : Table Text (List Text)) (lines : List Text) : Prop :=
  ∀ last, lines.getLast? = some last → Vanishes d table last → ∀ line ∈ lines, Vanishes d table line

theorem eq_nil_iff_of_meaning (hfilters : ∀ name body, table.get? name = some body → Unfiltered d body) :
    ∀ {budget : Nat} {depth : Int} {lines out : List Text}, Unfiltered d lines →
    meaning d table registry budget depth lines = .ok out →
    (out = [] ↔ ∀ line ∈ lines, Vanishes d table line)
  | 0, _, _, _, _, h => by simp [meaning] at h
  | budget + 1, depth, lines, out, hlines, h => by
      obtain ⟨parts, hparts, rfl⟩ := meaning_eq_ok.1 h
      have hsegments := (List.forall₂_and_left _ _).2 ⟨fun line (hl : line ∈ lines) => hl, hparts⟩
      rw [List.flatten_eq_nil_iff]
      refine (forall_iff_of_forall₂ (fun line part h => ?_) hsegments).symm
      obtain ⟨hline, hpart⟩ := h
      refine (eq_nil_iff_of_lineMeaning (fun r hr => hlines r ⟨line, hline, hr⟩) ?_ hpart).symm
      intro r body expanded _ hbody hexpanded
      exact eq_nil_iff_of_meaning hfilters (hfilters r.name body hbody) hexpanded

section
variable {budget : Nat} {depth : Int} {lines out : List Text}

theorem isLine_of_meaning
    (hinner : ∀ name body expanded, table.get? name = some body →
      meaning d table registry budget (depth + 1) body = .ok expanded → Laid expanded)
    (hlines : Unfiltered d lines) (hall : ∀ t ∈ lines, IsLine t)
    (h : meaning d table registry (budget + 1) depth lines = .ok out) : ∀ t ∈ out, IsLine t := by
  obtain ⟨parts, hparts, rfl⟩ := meaning_eq_ok.1 h
  have hpart : ∀ part ∈ parts, ∀ t ∈ part, IsLine t :=
    forall_mem_of_forall₂ hparts fun line hline part hpart =>
      (isLine_of_lineMeaning (hall line hline) (fun r hr => hlines r ⟨line, hline, hr⟩) hinner
        hpart).1
  intro t ht
  obtain ⟨part, hp, ht⟩ := List.mem_flatten.1 ht
  exact hpart part hp t ht

/-- The last of the lines that a body becomes is open, since the last line of the body is open and does
not disappear alone. -/
theorem laid_of_meaning (hfilters : ∀ name body, table.get? name = some body → Unfiltered d body)
    (hinner : ∀ name body expanded, table.get? name = some body →
      meaning d table registry budget (depth + 1) body = .ok expanded → Laid expanded)
    (hlines : Unfiltered d lines) (hlaid : Laid lines) (hkeeps : KeepsEnd d table lines)
    (h : meaning d table registry (budget + 1) depth lines = .ok out) : Laid out := by
  refine ⟨isLine_of_meaning hinner hlines hlaid.isLine h, fun t ht => ?_⟩
  have hnil := eq_nil_iff_of_meaning hfilters hlines h
  rcases List.eq_nil_or_concat lines with rfl | ⟨init, last, rfl⟩
  · rw [hnil.2 (by simp)] at ht
    cases ht
  rw [List.concat_eq_append] at *
  have hlast : (init ++ [last]).getLast? = some last := List.getLast?_concat
  obtain ⟨first, second, -, hsecond, rfl⟩ := meaning_append_eq_ok.1 h
  obtain ⟨parts, hparts, rfl⟩ := meaning_eq_ok.1 hsecond
  obtain ⟨part, rest, hpart, hrest, rfl⟩ := List.forall₂_cons_left_iff.1 hparts
  obtain rfl := List.forall₂_nil_left_iff.1 hrest
  have hplain : ∀ r, .reference r ∈ segmentsOf d last → r.filters = [] :=
    fun r hr => hlines r ⟨last, by simp, hr⟩
  by_cases hempty : part = []
  · -- then the last line disappears, and with it the whole body
    have hvanish : Vanishes d table last :=
      (eq_nil_iff_of_lineMeaning hplain (fun r body expanded _ hbody hexpanded =>
        eq_nil_iff_of_meaning hfilters (hfilters r.name body hbody) hexpanded) hpart).1 hempty
    rw [hnil.2 (hkeeps last hlast hvanish)] at ht
    cases ht
  · have hopen := (isLine_of_lineMeaning (hlaid.isLine last (by simp)) hplain hinner hpart).2
      (hlaid.last last hlast)
    rw [List.flatten_singleton, List.getLast?_append_of_ne_nil _ hempty] at ht
    exact hopen.last t ht

end

/-- Blocks without filters that keep their ends become blocks of lines, at every depth. -/
theorem laid_of_meaning_block
    (hfilters : ∀ name body, table.get? name = some body → Unfiltered d body)
    (hlaid : ∀ name body, table.get? name = some body → Laid body)
    (hkeeps : ∀ name body, table.get? name = some body → KeepsEnd d table body) :
    ∀ (budget : Nat) (depth : Int) (name : Text) (body expanded : List Text),
    table.get? name = some body → meaning d table registry budget depth body = .ok expanded →
    Laid expanded
  | 0, _, _, _, _, _, h => by simp [meaning] at h
  | budget + 1, depth, name, body, _, hbody, h =>
      laid_of_meaning hfilters (laid_of_meaning_block hfilters hlaid hkeeps budget (depth + 1))
        (hfilters name body hbody) (hlaid name body hbody) (hkeeps name body hbody) h

/-! ### Expansion without filters only computes -/

variable {σ : Type} {filters : Filters σ}

theorem eq_of_ends_apply_nil {lines out : List Text} {s s' : σ}
    (h : (filters.apply [] lines).Ends s (.ok out) s') : out = lines := by
  obtain ⟨items, t, hitems, h⟩ := Run.ends_bind_ok.1 h
  obtain ⟨view, t', -, h⟩ := Run.ends_bind_ok.1 h
  cases hitems.1
  rw [Registry.texts_map_text] at h
  exact (Except.ok.inj h.1).symm

theorem segmentMeaning_of_ends {outer : Body σ Text → Run σ (List Text)} {segment : Segment}
    {piece : Piece} {s s' : σ}
    (hinner : ∀ name body expanded t t', table.get? name = some body →
      (outer (.fixed body)).Ends t (.ok expanded) t' → inner body = .ok expanded)
    (hfilters : ∀ r, segment = .reference r → r.filters = [])
    (h : (expandSegment (Scope.ofTable table filters) outer line segment).Ends s (.ok piece) s') :
    segmentMeaning table registry inner line segment = .ok piece := by
  cases segment with
  | literal t => exact (Run.ends_pure_iff.1 h).1.symm
  | reference r =>
      obtain ⟨body?, t, hbody, h⟩ := Run.ends_bind_ok.1 h
      cases hbody.1
      simp only [segmentMeaning]
      cases hbody : table.get? r.name with
      | none =>
          rw [hbody] at h
          cases h.1
      | some body =>
          rw [hbody] at h
          obtain ⟨expanded, t', hexpanded, h⟩ := Run.ends_bind_ok.1 h
          obtain ⟨filtered, t'', hfiltered, hpiece⟩ := Run.ends_bind_ok.1 h
          rw [hfilters r rfl] at hfiltered ⊢
          rw [(Run.ends_pure_iff.1 hpiece).1, eq_of_ends_apply_nil hfiltered]
          exact Result.bind_eq_ok.2 ⟨expanded, hinner r.name body expanded t t' hbody hexpanded,
            Result.bind_eq_ok.2 ⟨expanded, registry.apply_nil expanded, rfl⟩⟩

theorem lineMeaning_of_ends {outer : Body σ Text → Run σ (List Text)} {out : List Text} {s s' : σ}
    (hinner : ∀ name body expanded t t', table.get? name = some body →
      (outer (.fixed body)).Ends t (.ok expanded) t' → inner body = .ok expanded)
    (hfilters : ∀ r, .reference r ∈ segmentsOf d line → r.filters = [])
    (h : (expandLine d (Scope.ofTable table filters) outer line).Ends s (.ok out) s') :
    lineMeaning d table registry inner line = .ok out := by
  unfold expandLine at h
  dsimp only at h
  unfold lineMeaning segmentsOf
  split at h
  · next href =>
      obtain ⟨pieces, t, hpieces, hsplice⟩ := Run.ends_bind_ok.1 h
      rw [if_pos href, (Run.ends_pure_iff.1 hsplice).1]
      refine Result.bind_eq_ok.2 ⟨pieces, Result.mapM_eq_ok.2 ?_, rfl⟩
      refine ((List.forall₂_and_left _ _).2 ⟨fun segment (hs : segment ∈ segmentsOf d line) => hs,
        Run.of_ends_mapM_ok hpieces⟩).imp ?_
      rintro segment piece ⟨hs, u, u', hpiece⟩
      exact segmentMeaning_of_ends hinner (fun r hr => hfilters r (hr ▸ hs)) hpiece
  · next href =>
      rw [if_neg href]
      exact (Run.ends_pure_iff.1 h).1.symm

/-- What expansion ends in is what its function says, whatever the filters are, if no reference has
any. -/
theorem meaning_of_ends (hfilters : ∀ name body, table.get? name = some body → Unfiltered d body) :
    ∀ {budget : Nat} {depth : Int} {lines out : List Text} {s s' : σ}, Unfiltered d lines →
    (expandBody d (Scope.ofTable table filters) budget depth (.fixed lines)).Ends s (.ok out) s' →
    meaning d table registry budget depth lines = .ok out
  | 0, _, _, _, _, _, _, h => by cases h.1
  | budget + 1, depth, lines, out, s, s', hlines, h => by
      rw [expandBody_fixed, Run.ends_progress_bind] at h
      obtain ⟨parts, hparts, rfl⟩ := Run.of_ends_collect_ok h
      refine meaning_eq_ok.2 ⟨parts, ?_, rfl⟩
      refine ((List.forall₂_and_left _ _).2 ⟨fun line (hl : line ∈ lines) => hl, hparts⟩).imp ?_
      rintro line part ⟨hline, u, u', hpart⟩
      obtain ⟨r, hpart, hr⟩ := Run.ends_mapFault.1 hpart
      rw [Result.mapError_eq_ok.1 hr] at hpart
      refine lineMeaning_of_ends (fun name body expanded x x' hbody hexpanded => ?_)
        (fun r hr => hlines r ⟨line, hline, hr⟩) hpart
      exact meaning_of_ends hfilters (hfilters name body hbody) hexpanded

end Expansion

/-! ### The bodies of a document -/

namespace Table

variable {κ α : Type} [BEq κ] [LawfulBEq κ]

theorem exists_mem_of_get? {table : Table κ α} {key : κ} {value : α}
    (h : table.get? key = some value) : ∃ entry ∈ table, entry.2 = value := by
  obtain ⟨before, after, hentries, -⟩ := List.lookup_eq_some_iff.1 h
  exact ⟨(key, value), by rw [hentries]; simp, rfl⟩

omit [LawfulBEq κ] in
theorem forall_set {P : α → Prop} {key : κ} {value : α} (hvalue : P value) :
    ∀ {table : Table κ α}, (∀ entry ∈ table, P entry.2) →
      ∀ entry ∈ table.set key value, P entry.2
  | [], _ => by simpa [set] using hvalue
  | (k, v) :: rest, h => by
      rw [List.forall_mem_cons] at h
      unfold set
      split
      · exact List.forall_mem_cons.2 ⟨hvalue, h.2⟩
      · exact List.forall_mem_cons.2 ⟨h.1, forall_set hvalue h.2⟩

omit [LawfulBEq κ] in
theorem forall_erase {P : α → Prop} {key : κ} : ∀ {table : Table κ α},
    (∀ entry ∈ table, P entry.2) → ∀ entry ∈ table.erase key, P entry.2
  | [], h => h
  | (k, v) :: rest, h => by
      rw [List.forall_mem_cons] at h
      unfold erase
      split
      · exact h.2
      · exact List.forall_mem_cons.2 ⟨h.1, forall_erase h.2⟩

end Table

theorem Fragment.forall_of_collectFrom {P : Text → Prop} {extensionLanguage : Text}
    {lines : List Line} {current : Option Fragment} {fragments : List Fragment}
    (hlines : ∀ line ∈ lines, P line.text)
    (hcurrent : ∀ fragment, current = some fragment → ∀ t ∈ fragment.lines, P t)
    (h : collectFrom extensionLanguage current lines = .ok fragments) :
    ∀ fragment ∈ fragments, ∀ t ∈ fragment.lines, P t := by
  fun_induction collectFrom extensionLanguage current lines generalizing fragments with
  | case1 =>
      rw [← Except.ok.inj h]
      simp
  | case2 fragment => cases h
  | case3 line rest hparse ih =>
      rw [List.forall_mem_cons] at hlines
      exact ih hlines.2 (by simp) h
  | case4 line rest fragment hparse ih =>
      rw [List.forall_mem_cons] at hlines
      refine ih hlines.2 ?_ h
      rintro _ ⟨⟩ t ht
      rcases List.mem_append.1 ht with ht | ht
      · exact hcurrent fragment rfl t ht
      · rw [List.mem_singleton.1 ht]
        exact hlines.1
  | case5 line rest header hparse ih =>
      rw [List.forall_mem_cons] at hlines
      refine ih hlines.2 ?_ h
      rintro _ ⟨⟩ t ht
      cases ht
  | case6 line rest header fragment hparse ih =>
      rw [List.forall_mem_cons] at hlines
      obtain ⟨others, hothers, h⟩ := Result.bind_eq_ok.1 h
      rw [← Except.ok.inj h, List.forall_mem_cons]
      exact ⟨hcurrent fragment rfl, ih hlines.2 (by simp) hothers⟩

namespace Block

variable {P : Text → Prop}

/-- Every line of the fragments of a block. -/
def ForallLines (P : Text → Prop) (block : Block) : Prop :=
  ∀ fragment ∈ block.fragments, ∀ t ∈ fragment.lines, P t

theorem forall_of_add {blocks blocks' : Table Text Block} {fragment : Fragment}
    (hblocks : ∀ entry ∈ blocks, entry.2.ForallLines P) (hfragment : ∀ t ∈ fragment.lines, P t)
    (h : add blocks fragment = .ok blocks') : ∀ entry ∈ blocks', entry.2.ForallLines P := by
  unfold add at h
  split at h
  · rw [← Except.ok.inj h]
    exact hblocks
  · dsimp only at h
    split at h
    · rw [← Except.ok.inj h]
      refine Table.forall_set ?_ hblocks
      simpa [ForallLines] using hfragment
    · next block hblock =>
        split at h
        · rw [← Except.ok.inj h]
          obtain ⟨entry, hentry, rfl⟩ := Table.exists_mem_of_get? hblock
          refine Table.forall_set (fun f hf => ?_) hblocks
          rcases List.mem_append.1 hf with hf | hf
          · exact hblocks entry hentry f hf
          · rw [List.mem_singleton.1 hf]
            exact hfragment
        · cases h

theorem forall_of_foldlM : ∀ {fragments : List Fragment} {blocks blocks' : Table Text Block},
    (∀ entry ∈ blocks, entry.2.ForallLines P) →
    (∀ fragment ∈ fragments, ∀ t ∈ fragment.lines, P t) →
    fragments.foldlM add blocks = .ok blocks' → ∀ entry ∈ blocks', entry.2.ForallLines P
  | [], blocks, blocks', hblocks, _, h => by
      rw [← Except.ok.inj h]
      exact hblocks
  | fragment :: fragments, blocks, blocks', hblocks, hfragments, h => by
      rw [List.forall_mem_cons] at hfragments
      rw [List.foldlM_cons, Result.bind_eq_ok] at h
      obtain ⟨next, hnext, h⟩ := h
      exact forall_of_foldlM (forall_of_add hblocks hfragments.1 hnext) hfragments.2 h

theorem not_mem_dropTerminator {t : Text} (h : Terminated t) : '\n' ∉ dropTerminator t := by
  have hline : dropLastIf '\n' t = t.dropLast := if_pos h.1
  unfold dropTerminator
  rw [hline]
  unfold dropLastIf
  split
  · exact fun hm => h.2 (List.mem_of_mem_dropLast hm)
  · exact h.2

theorem laid_dropLastTerminator : ∀ {lines : List Text}, (∀ t ∈ lines, Terminated t) →
    Expansion.Laid (dropLastTerminator lines)
  | [], _ => ⟨by simp [dropLastTerminator], by simp [dropLastTerminator]⟩
  | [line], h => by
      have hopen := not_mem_dropTerminator (h line List.mem_cons_self)
      refine ⟨fun t ht => ?_, fun t ht => ?_⟩
      · rw [List.mem_singleton.1 ht]
        exact isLine_of_not_mem hopen
      · rw [← Option.some.inj ht]
        exact hopen
  | line :: next :: rest, h => by
      rw [List.forall_mem_cons] at h
      obtain ⟨hall, hlast⟩ := laid_dropLastTerminator h.2
      have hne : dropLastTerminator (next :: rest) ≠ [] := by
        cases rest <;> simp [dropLastTerminator]
      refine ⟨List.forall_mem_cons.2 ⟨h.1.2, hall⟩, fun t ht => hlast t ?_⟩
      rw [← ht]
      exact (List.getLast?_cons_of_ne_nil hne).symm

theorem laid_body {block : Block} (h : block.ForallLines Terminated) :
    Expansion.Laid block.body := by
  refine laid_dropLastTerminator fun t ht => ?_
  obtain ⟨fragment, hfragment, ht⟩ := List.mem_flatMap.1 ht
  exact h fragment (List.mem_of_mem_drop hfragment) t ht

theorem laid_of_assemble {extensionLanguage : Text} {lines : List Line} {bodies : Bodies}
    (hlines : ∀ line ∈ lines, Terminated line.text)
    (h : assemble extensionLanguage lines = .ok bodies) :
    (∀ root, bodies.root = some root → Expansion.Laid root) ∧
      ∀ name body, bodies.named.get? name = some body → Expansion.Laid body := by
  obtain ⟨fragments, hfragments, h⟩ := Result.bind_eq_ok.1 h
  obtain ⟨blocks, hblocks, h⟩ := Result.bind_eq_ok.1 h
  rw [← Except.ok.inj h]
  have hall := forall_of_foldlM (P := Terminated) (by simp)
    (Fragment.forall_of_collectFrom hlines (by simp) hfragments) hblocks
  constructor
  · intro root hroot
    obtain ⟨block, hblock, rfl⟩ := Option.map_eq_some_iff.1 hroot
    obtain ⟨entry, hentry, rfl⟩ := Table.exists_mem_of_get? hblock
    exact laid_body (hall entry hentry)
  · intro name body hbody
    obtain ⟨entry, hentry, rfl⟩ := Table.exists_mem_of_get? hbody
    obtain ⟨source, hsource, rfl⟩ := List.mem_map.1 hentry
    exact laid_body (Table.forall_erase hall source hsource)

end Block

namespace Expansion

/-- **Expansion gives whole lines**, as long as no block loses its last line alone. In a document of
terminated lines whose references have no filters, a line feed stands in what the root expands to only
at the end of a line. -/
theorem expand_whole_lines {σ : Type} {filters : Filters σ} {settings : Settings} {stack : Nat}
    {extensionLanguage : Text} {document : List Line} {bodies : Block.Bodies} {root : List Text}
    (hdocument : ∀ line ∈ document, Terminated line.text)
    (hassemble : Block.assemble extensionLanguage document = .ok bodies)
    (hroot : bodies.root = some root) (hplainRoot : Unfiltered settings.delimiters root)
    (hplain : ∀ name body, bodies.named.get? name = some body →
      Unfiltered settings.delimiters body)
    (hkeeps : ∀ name body, bodies.named.get? name = some body →
      KeepsEnd settings.delimiters bodies.named body)
    {s : σ} {out : List Text}
    (hexpand : ((expand settings stack (Scope.ofTable bodies.named filters) (.fixed root)).run
      s).result = .ok out) : ∀ t ∈ out, '\n' ∉ t.dropLast := by
  obtain ⟨hrootLaid, hlaid⟩ := Block.laid_of_assemble hdocument hassemble
  obtain ⟨-, hends⟩ := Run.ends_withRoom_ok.1 ⟨hexpand, rfl⟩
  have hmeaning : meaning settings.delimiters bodies.named ⟨fun _ => none, {}⟩
      (budget settings.maxMacroDepth 0) 0 root = .ok out := meaning_of_ends hplain hplainRoot hends
  cases hbudget : budget settings.maxMacroDepth 0 with
  | zero => simp [hbudget, meaning] at hmeaning
  | succ n =>
      rw [hbudget] at hmeaning
      exact isLine_of_meaning (laid_of_meaning_block hplain hlaid hkeeps n (0 + 1)) hplainRoot
        (hrootLaid root hroot).isLine hmeaning

/-- A block that disappears whole, inside another one and at the end of the root. -/
theorem expand_whole_lines_dropped :
    let document := Line.ofText none
      ("``` p e\n```\n``` p v\n⦅e⦆\n```\n``` p b\nx\n⦅v⦆\ny\n```\n" ++
        "``` p\nf ⦅b⦆ g\n⦅v⦆\n```\n").toList
    let root := ["f ⦅b⦆ g\n".toList, "⦅v⦆".toList]
    let named : Table Text (List Text) := [(['e'], []), (['v'], ["⦅e⦆".toList]),
      (['b'], ["x\n".toList, "⦅v⦆\n".toList, "y".toList])]
    (∀ line ∈ document, Terminated line.text) ∧
    Block.assemble "python".toList document = .ok ⟨some root, named⟩ ∧
    ((expand {} 9 (Scope.ofTable named Script.filters) (.fixed root)).run
      (Script.Context.fresh [])).result = .ok ["f x\n".toList, "y g\n".toList] ∧
    ∀ t ∈ ["f x\n".toList, "y g\n".toList], '\n' ∉ t.dropLast := by
  intro document root named
  have hdocument : ∀ line ∈ document, Terminated line.text := by decide +kernel
  have hassemble : Block.assemble "python".toList document = .ok ⟨some root, named⟩ := by
    decide +kernel
  have hexpand : ((expand {} 9 (Scope.ofTable named Script.filters) (.fixed root)).run
      (Script.Context.fresh [])).result = .ok ["f x\n".toList, "y g\n".toList] := by decide +kernel
  have hplain : ∀ entry ∈ named, Unfiltered {} entry.2 := by
    simp only [named, List.forall_mem_cons]
    exact ⟨unfiltered_of_all rfl, unfiltered_of_all (by cbv), unfiltered_of_all (by cbv), by simp⟩
  have hy : segmentsOf {} "y".toList = [.literal "y".toList] := by cbv
  have hkeeps : ∀ entry ∈ named, KeepsEnd {} named entry.2 := by
    simp only [named, List.forall_mem_cons]
    refine ⟨fun _ hlast => ?_, fun _ hlast hvanish => ?_, fun _ hlast hvanish => ?_, by simp⟩
    · cases hlast
    · cases hlast
      simpa using hvanish
    · cases hlast
      obtain ⟨⟨r, hr⟩, -⟩ := vanishes_iff.1 hvanish
      cases List.mem_singleton.1 (hy ▸ hr)
  refine ⟨hdocument, hassemble, hexpand, expand_whole_lines hdocument hassemble rfl
    (unfiltered_of_all (by cbv)) (fun name body hbody => ?_) (fun name body hbody => ?_) hexpand⟩
  · obtain ⟨entry, hentry, rfl⟩ := Table.exists_mem_of_get? hbody
    exact hplain entry hentry
  · obtain ⟨entry, hentry, rfl⟩ := Table.exists_mem_of_get? hbody
    exact hkeeps entry hentry

/-- A block that loses its last line alone leaves the line feed of the line before it in the middle of a
line of the root. -/
theorem expand_broken_line :
    let document := Line.ofText none
      "``` p e\n```\n``` p b\nx\n⦅e⦆\n```\n``` p\nf ⦅b⦆ g\n```\n".toList
    let named : Table Text (List Text) := [(['e'], []), (['b'], ["x\n".toList, "⦅e⦆".toList])]
    (∀ line ∈ document, Terminated line.text) ∧
    Block.assemble "python".toList document = .ok ⟨some ["f ⦅b⦆ g".toList], named⟩ ∧
    Unfiltered {} ["f ⦅b⦆ g".toList] ∧
    (∀ entry ∈ named, Unfiltered {} entry.2) ∧
    ((expand {} 9 (Scope.ofTable named Script.filters) (.fixed ["f ⦅b⦆ g".toList])).run
      (Script.Context.fresh [])).result = .ok ["f x\n g".toList] ∧
    '\n' ∈ "f x\n g".toList.dropLast := by
  refine ⟨by decide +kernel, by decide +kernel, unfiltered_of_all (by cbv), ?_, by decide +kernel,
    by decide⟩
  intro entry hentry
  rcases List.mem_pair.1 hentry with rfl | rfl
  · exact unfiltered_of_all rfl
  · exact unfiltered_of_all (by cbv)

end Expansion

end Literate
