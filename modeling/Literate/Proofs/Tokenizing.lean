import Mathlib
import Literate.Proofs.Positions

/-! # Searching for references

The segments of a text can be found by a search that keeps two positions: where the literal span in progress
starts, and where to look for the next opening delimiter (`Search`). A delimiter that begins no live
reference moves the second position only, so that it stays in the span; a reference ends the span and moves
both. The search comes to an end if the opening delimiter is not empty, and finds the segments of the scan:
what it has found, the span in progress and what the scan finds from there on are always the segments of the
whole text (`Search.Leads`), and every round moves the second position on (`Search.Leads.step`).

The segments are the whole text, literal spans are as long as they can be, and a reference stands only where
a live one is (`search_ends_lossless`). -/

namespace Literate

open Text

/-! ### Parts of a text -/

namespace Text

variable {t u : Text} {i j k : Nat}

/-- The part of a text between two positions. -/
def slice (t : Text) (i j : Nat) : Text := (t.drop i).take (j - i)

theorem drop_drop_sub (t : Text) (hij : i ≤ j) : (t.drop i).drop (j - i) = t.drop j := by
  rw [List.drop_drop, Nat.add_sub_cancel' hij]

theorem slice_append_slice (hij : i ≤ j) (hjk : j ≤ k) : slice t i j ++ slice t j k = slice t i k := by
  have hlength : k - i = (j - i) + (k - j) := by omega
  rw [slice, slice, slice, hlength, List.take_add, drop_drop_sub t hij]

theorem slice_append_drop (hij : i ≤ j) : slice t i j ++ t.drop j = t.drop i := by
  rw [slice, ← drop_drop_sub t hij, List.take_append_drop]

theorem slice_of_drop_eq (h : t.drop i = u ++ t.drop (i + u.length)) : slice t i (i + u.length) = u := by
  rw [slice, h, Nat.add_sub_cancel_left, List.take_left]

end Text

namespace Segment

open Delimiters

variable {d : Delimiters} {t : Text} {p : Nat} {c : Char} {r : Reference}
  {segments left right : List Segment}

/-! ### Literal text before segments -/

/-- The literal span of a text, if there is one. -/
def span (t : Text) : List Segment := if t.isEmpty then [] else [.literal t]

theorem pushText_append (u v : Text) (segments : List Segment) :
    pushText (u ++ v) segments = pushText u (pushText v segments) := List.foldr_append

theorem pushText_cons (c : Char) (u : Text) (segments : List Segment) :
    pushText (c :: u) segments = pushChar c (pushText u segments) := rfl

theorem pushText_nil (u : Text) : pushText u [] = span u := by
  induction u with
  | nil => rfl
  | cons c cs ih =>
      rw [pushText_cons, ih]
      cases cs <;> rfl

theorem pushText_reference (u : Text) (r : Reference) (segments : List Segment) :
    pushText u (.reference r :: segments) = span u ++ .reference r :: segments := by
  induction u with
  | nil => rfl
  | cons c cs ih =>
      rw [pushText_cons, ih]
      cases cs <;> rfl

/-- One of two segments is a reference. -/
def Apart (a b : Segment) : Prop := a.reference?.isSome = true ∨ b.reference?.isSome = true

theorem isChain_pushChar (h : segments.IsChain Apart) : (pushChar c segments).IsChain Apart := by
  cases segments with
  | nil => exact .singleton _
  | cons s rest =>
      cases s with
      | reference r => exact .cons_cons (.inr rfl) h
      | literal u =>
          rw [List.isChain_cons] at h
          exact List.isChain_cons.2 h

theorem isChain_pushText {u : Text} (h : segments.IsChain Apart) :
    (pushText u segments).IsChain Apart := by
  induction u with
  | nil => exact h
  | cons c cs ih => exact isChain_pushChar ih

/-- A reference behind a pushed character is one of the segments it was pushed before. -/
theorem pushChar_eq_append (h : pushChar c segments = left ++ .reference r :: right) :
    ∃ first, segments = first ++ .reference r :: right ∧
      left.flatMap raw = c :: first.flatMap raw := by
  unfold pushChar at h
  split at h
  · next u rest =>
      cases left with
      | nil => cases h
      | cons s left =>
          obtain ⟨rfl, rfl⟩ := List.cons.inj h
          exact ⟨.literal u :: left, rfl, rfl⟩
  · cases left with
    | nil => cases h
    | cons s left =>
        obtain ⟨rfl, rfl⟩ := List.cons.inj h
        exact ⟨left, rfl, rfl⟩

theorem pushText_eq_append {u : Text} (h : pushText u segments = left ++ .reference r :: right) :
    ∃ first, segments = first ++ .reference r :: right ∧
      left.flatMap raw = u ++ first.flatMap raw := by
  induction u generalizing left with
  | nil => exact ⟨left, h, rfl⟩
  | cons c cs ih =>
      obtain ⟨others, hothers, hleft⟩ := pushChar_eq_append h
      obtain ⟨first, hfirst, hrest⟩ := ih hothers
      exact ⟨first, hfirst, by rw [hleft, hrest, List.cons_append]⟩

/-! ### What the segments are -/

theorem isChain_scanAt (hopening : d.opening ≠ []) (t : Text) (p : Nat) :
    (scanAt d t p).IsChain Apart := by
  induction p using position_induction t hopening with
  | finish p hp =>
      rw [scanAt_end hp]
      exact .nil
  | plain p hlt hopens ih =>
      rw [scanAt_plain hlt hopens]
      exact isChain_pushChar ih
  | dead p hopens hdead ih =>
      rw [scanAt_dead hopening hopens hdead]
      exact isChain_pushText ih
  | live p r hr ih =>
      rw [scanAt_live hr]
      exact List.isChain_cons.2 ⟨fun _ _ => .inl rfl, ih⟩

/-- A reference among the segments is the live one that stands behind the text of those before it. -/
theorem readsAt_of_scanAt (hopening : d.opening ≠ [])
    (h : scanAt d t p = left ++ .reference r :: right) :
    d.ReadsAt t (p + (left.flatMap raw).length) r := by
  induction p using position_induction t hopening generalizing left with
  | finish p hp =>
      rw [scanAt_end hp] at h
      simp at h
  | plain p hlt hopens ih =>
      rw [scanAt_plain hlt hopens] at h
      obtain ⟨first, hfirst, hleft⟩ := pushChar_eq_append h
      rw [hleft, List.length_cons, Nat.add_comm _ 1, ← Nat.add_assoc]
      exact ih hfirst
  | dead p hopens hdead ih =>
      rw [scanAt_dead hopening hopens hdead] at h
      obtain ⟨first, hfirst, hleft⟩ := pushText_eq_append h
      rw [hleft, List.length_append, ← Nat.add_assoc]
      exact ih hfirst
  | live p q hq ih =>
      rw [scanAt_live hq] at h
      cases left with
      | nil =>
          cases (List.cons.inj h).1
          exact hq
      | cons s left =>
          obtain ⟨rfl, hrest⟩ := List.cons.inj h
          rw [List.flatMap_cons, List.length_append, ← Nat.add_assoc]
          exact ih hrest

/-! ### Literal stretches of the scan -/

/-- Up to the first opening delimiter everything is literal. -/
theorem scanAt_skip : ∀ {skipped after : Text} {p : Nat},
    cut? d.opening (t.drop p) = some (skipped, after) →
    scanAt d t p = pushText skipped (scanAt d t (p + skipped.length)) ∧
      d.OpensAt t (p + skipped.length)
  | [], after, p, h => ⟨rfl, after, (eq_append_of_cut? h).symm⟩
  | c :: skipped, after, p, h => by
      have htext := eq_append_of_cut? h
      have hlt : p < t.length := by
        by_contra hge
        rw [List.drop_eq_nil_of_le (Nat.le_of_not_lt hge)] at htext
        cases htext
      have hdrop : t.drop p = t[p] :: t.drop (p + 1) := List.drop_eq_getElem_cons hlt
      rw [hdrop] at h
      rcases cut?_cons_eq_some h with ⟨hnil, -⟩ | ⟨rest, hrest, hopens, hcut⟩
      · cases hnil
      · obtain ⟨rfl, rfl⟩ := List.cons.inj hrest
        obtain ⟨hscan, hnext⟩ := scanAt_skip hcut
        have hpos : p + (t[p] :: skipped).length = p + 1 + skipped.length := by
          rw [List.length_cons]
          omega
        rw [hpos]
        refine ⟨?_, hnext⟩
        rw [scanAt_plain hlt (by rwa [OpensAt, hdrop]), hscan, pushText_cons]

/-- Where no live reference follows, everything is literal. -/
theorem scanAt_of_forall_dead (hopening : d.opening ≠ []) (h : ∀ q, p ≤ q → ¬ d.LiveAt t q) :
    scanAt d t p = span (t.drop p) := by
  induction p using position_induction t hopening with
  | finish p hp =>
      rw [scanAt_end hp, List.drop_eq_nil_of_le hp]
      rfl
  | plain p hlt hopens ih =>
      have hnext := ih fun q hq => h q (by omega)
      rw [scanAt_plain hlt hopens, hnext, List.drop_eq_getElem_cons hlt, ← pushText_nil,
        ← pushText_nil, pushText_cons]
  | dead p hopens hdead ih =>
      have hnext := ih fun q hq => h q (by omega)
      rw [scanAt_dead hopening hopens hdead, hnext, ← pushText_nil, ← pushText_append,
        ← hopens.drop_eq, pushText_nil]
  | live p r hr ih => exact absurd ⟨r, hr⟩ (h p (Nat.le_refl p))

theorem scanAt_of_unopened (hopening : d.opening ≠ []) (h : cut? d.opening (t.drop p) = none) :
    scanAt d t p = span (t.drop p) := by
  refine scanAt_of_forall_dead hopening fun q hq hlive => ?_
  exact cut?_eq_none_iff.1 (cut?_drop_eq_none hq h) hlive.opensAt.isInfix

theorem scanAt_of_unclosed (hopening : d.opening ≠ []) (h : cut? d.closing (t.drop p) = none) :
    scanAt d t p = span (t.drop p) := by
  refine scanAt_of_forall_dead hopening fun q hq hlive => ?_
  obtain ⟨r, hr⟩ := hlive
  obtain ⟨inner, after, parsed, hcut, -⟩ := hr.reads
  rw [cut?_drop_eq_none (by omega) h] at hcut
  cases hcut

/-! ### The search -/

/-- How far a search has come: the segments it has found, where the literal span in progress starts, and
where it looks for the next opening delimiter. -/
structure Search where
  found : List Segment := []
  start : Nat := 0
  pos : Nat := 0

namespace Search

/-- What is left is a literal span. -/
def finish (t : Text) (s : Search) : List Segment := s.found ++ span (t.drop s.start)

/-- Go on behind a reference; what was literal up to it is a span. -/
def take (t : Text) (s : Search) (opening stop : Nat) (r : Reference) : Search where
  found := s.found ++ span (slice t s.start opening) ++ [.reference { r with raw := slice t opening stop }]
  start := stop
  pos := stop

/-- One round of the search: it goes on, or ends with the segments. -/
def step (d : Delimiters) (t : Text) (s : Search) : Search ⊕ List Segment :=
  match cut? d.opening (t.drop s.pos) with
  | none => .inr (s.finish t)
  | some (skipped, _) =>
    let opening := s.pos + skipped.length
    let inside := opening + d.opening.length
    if d.protectedBy (before? t opening) then .inl { s with pos := inside }
    else
      match cut? d.closing (t.drop inside) with
      | none => .inr (s.finish t)
      | some (inner, _) =>
        match Reference.parse? inner with
        | none => .inl { s with pos := inside }
        | some r => .inl (s.take t opening (inside + inner.length + d.closing.length) r)

/-- The segments, if the search ends within a number of rounds. -/
def run (d : Delimiters) (t : Text) : Nat → Search → Option (List Segment)
  | 0, _ => none
  | rounds + 1, s =>
    match step d t s with
    | .inl next => run d t rounds next
    | .inr segments => some segments

/-- The search is on the way to the segments of the text. -/
structure Leads (d : Delimiters) (t : Text) (s : Search) : Prop where
  start_le : s.start ≤ s.pos
  pos_le : s.pos ≤ t.length
  segments : s.found ++ pushText (slice t s.start s.pos) (scanAt d t s.pos) = tokenize d t

variable {s : Search}

theorem leads_start (d : Delimiters) (t : Text) : Leads d t {} := ⟨Nat.le_refl 0, Nat.zero_le _, rfl⟩

/-- Literal text only moves the position at which the search goes on. -/
theorem Leads.advance (h : Leads d t s) {u : Text}
    (hdrop : t.drop s.pos = u ++ t.drop (s.pos + u.length)) (hle : s.pos + u.length ≤ t.length)
    (hscan : scanAt d t s.pos = pushText u (scanAt d t (s.pos + u.length))) :
    Leads d t { s with pos := s.pos + u.length } where
  start_le := Nat.le_add_right_of_le h.start_le
  pos_le := hle
  segments := by
    have hslice : slice t s.start (s.pos + u.length) = slice t s.start s.pos ++ u := by
      rw [← slice_append_slice h.start_le (Nat.le_add_right _ _), slice_of_drop_eq hdrop]
    rw [hslice, pushText_append, ← hscan, h.segments]

theorem Leads.finish_eq (h : Leads d t s) (hscan : scanAt d t s.pos = span (t.drop s.pos)) :
    s.finish t = tokenize d t := by
  rw [finish, ← h.segments, hscan, ← pushText_nil, ← pushText_nil, ← pushText_append,
    slice_append_drop h.start_le]

theorem Leads.take (h : Leads d t s) {inner : Text} {q : Reference}
    (hr : d.ReadsAt t s.pos { q with raw := d.opening ++ inner ++ d.closing }) :
    Leads d t (s.take t s.pos (s.pos + d.opening.length + inner.length + d.closing.length) q) := by
  have hstop : s.pos + d.opening.length + inner.length + d.closing.length =
      s.pos + (d.opening ++ inner ++ d.closing).length := by
    simp only [List.length_append]
    omega
  have hraw := slice_of_drop_eq hr.drop_eq
  rw [hstop]
  refine ⟨Nat.le_refl _, hr.le_length, ?_⟩
  rw [← h.segments, scanAt_live hr, pushText_reference, Search.take, hraw]
  simp [slice, pushText]

/-- A round of the search ends it with the segments of the text, or moves it on. -/
theorem Leads.step (hopening : d.opening ≠ []) (h : Leads d t s) :
    step d t s = .inr (tokenize d t) ∨
      ∃ next, step d t s = .inl next ∧ Leads d t next ∧ s.pos < next.pos := by
  have hwidth := List.length_pos_of_ne_nil hopening
  unfold Search.step
  cases hcut : cut? d.opening (t.drop s.pos) with
  | none => exact .inl (congrArg Sum.inr (h.finish_eq (scanAt_of_unopened hopening hcut)))
  | some found =>
      obtain ⟨skipped, after⟩ := found
      obtain ⟨hskip, hopens⟩ := scanAt_skip hcut
      have hle := hopens.le_length hopening
      have hdrop : t.drop s.pos = skipped ++ t.drop (s.pos + skipped.length) := by
        rw [← List.drop_drop, eq_append_of_cut? hcut, List.drop_left]
      have hat := h.advance hdrop (by omega) hskip
      have hdead : ¬ d.LiveAt t (s.pos + skipped.length) →
          Leads d t { s with pos := s.pos + skipped.length + d.opening.length } :=
        fun hdead => hat.advance hopens.drop_eq hle (scanAt_dead hopening hopens hdead)
      dsimp only
      split
      · next hprotected =>
          refine .inr ⟨_, rfl, hdead ?_, by dsimp only; omega⟩
          rintro ⟨r, hr⟩
          rw [hr.exposed] at hprotected
          cases hprotected
      · next hexposed =>
          cases hclose : cut? d.closing (t.drop (s.pos + skipped.length + d.opening.length)) with
          | none =>
              have hunread : ¬ d.LiveAt t (s.pos + skipped.length) := by
                rintro ⟨r, hr⟩
                obtain ⟨inner, tail, q, hread, -⟩ := hr.reads
                rw [hclose] at hread
                cases hread
              have hend := (hdead hunread).finish_eq (scanAt_of_unclosed hopening hclose)
              exact .inl (congrArg Sum.inr hend)
          | some closed =>
              obtain ⟨inner, tail⟩ := closed
              cases hparse : Reference.parse? inner with
              | none =>
                  refine .inr ⟨_, by simp only [hparse], hdead ?_, by dsimp only; omega⟩
                  rintro ⟨r, hr⟩
                  obtain ⟨inner', tail', q, hread, hq, -⟩ := hr.reads
                  cases hclose.symm.trans hread
                  cases hparse.symm.trans hq
              | some q =>
                  have hr : d.ReadsAt t (s.pos + skipped.length)
                      { q with raw := d.opening ++ inner ++ d.closing } :=
                    ⟨hopens, by simpa using hexposed, inner, tail, q, hclose, hparse, rfl⟩
                  refine .inr ⟨_, by simp only [hparse]; rfl, hat.take hr, ?_⟩
                  simp only [Search.take]
                  omega

/-- A search that is on the way ends with the segments of the text. -/
theorem run_of_leads (hopening : d.opening ≠ []) : ∀ {rounds : Nat} {s : Search},
    Leads d t s → t.length - s.pos < rounds → run d t rounds s = some (tokenize d t)
  | 0, s, _, hrounds => by omega
  | rounds + 1, s, h, hrounds => by
      rcases h.step hopening with hstep | ⟨next, hstep, hnext, hlt⟩
      · rw [run, hstep]
      · have hpos := hnext.pos_le
        rw [run, hstep]
        exact run_of_leads hopening hnext (by omega)

theorem run_of_empty_opening : ∀ rounds : Nat, run { opening := [] } ['⦆'] rounds {} = none
  | 0 => rfl
  | rounds + 1 => by
      have hstep : step { opening := [] } ['⦆'] {} = .inl {} := rfl
      rw [run, hstep]
      exact run_of_empty_opening rounds

end Search

/-- The search through a text ends, and no later than in as many rounds as the text has characters and one
more. The segments it finds are those of the scan. Together they are the text; literal spans are not empty,
and no two of them are side by side. A reference is written as its name and filters are read, between the
delimiters, and does not stand directly behind the escape character. -/
theorem search_ends_lossless (d : Delimiters) (t : Text) (hopening : d.opening ≠ []) :
    Search.run d t (t.length + 1) {} = some (tokenize d t) ∧
      (tokenize d t).flatMap raw = t ∧
      (∀ u, .literal u ∈ tokenize d t → u ≠ []) ∧
      (tokenize d t).IsChain Apart ∧
      ∀ left r right, tokenize d t = left ++ .reference r :: right →
        (∃ inner q, r.raw = d.opening ++ inner ++ d.closing ∧ Reference.parse? inner = some q ∧
          q.name = r.name ∧ q.filters = r.filters) ∧
        ∀ e, d.escape = [e] → (left.flatMap raw).getLast? ≠ some e := by
  obtain ⟨htext, hraw⟩ := flatMap_raw_scan d none t
  refine ⟨Search.run_of_leads hopening (Search.leads_start d t) (by dsimp only; omega), htext,
    fun u hu => hraw _ hu, isChain_scanAt hopening t 0, fun left r right h => ?_⟩
  have hr := readsAt_of_scanAt hopening (p := 0) h
  rw [Nat.zero_add] at hr
  constructor
  · obtain ⟨inner, after, q, -, hq, rfl⟩ := hr.reads
    exact ⟨inner, q, rfl, hq, rfl, rfl⟩
  · have hbefore : before? t (left.flatMap raw).length = (left.flatMap raw).getLast? := by
      rw [← htext, ← tokenize, h, List.flatMap_append, before?_length]
    intro e he hlast
    have hexposed := hr.exposed
    rw [hbefore, hlast] at hexposed
    simp [protectedBy, he] at hexposed

/-- Delimiters of two characters each. -/
def angled : Delimiters := { opening := ['<', '<'], closing := ['>', '>'] }

theorem search_ends_angled :
    angled.opening ≠ [] ∧
      Search.run angled "\\<<a>> <<.>><<b | f>>>x <<c".toList 29 {} =
        some [.literal "\\<<a>> <<.>>".toList,
          .reference { name := ['b'], filters := [['f']], raw := "<<b | f>>".toList },
          .literal ">x <<c".toList] := by
  have htokens : tokenize angled "\\<<a>> <<.>><<b | f>>>x <<c".toList =
      [.literal "\\<<a>> <<.>>".toList,
        .reference { name := ['b'], filters := [['f']], raw := "<<b | f>>".toList },
        .literal ">x <<c".toList] := by cbv
  have hopening : angled.opening ≠ [] := by decide
  have hends := (search_ends_lossless angled "\\<<a>> <<.>><<b | f>>>x <<c".toList hopening).1
  rw [htokens] at hends
  exact ⟨hopening, hends⟩

end Segment
end Literate
