import Mathlib
import Literate.Proofs.Tokenizing

/-! # Openings that overlap

An opening delimiter of several characters may overlap another one. When the scan has come to an opening
delimiter that begins no live reference, it goes on behind the delimiter as a whole, and so passes over a
live reference that begins within it: `<<<a>>` has no reference, although `<<a>>` stands in it
(`live_opening_hidden`).

This is the only way to miss one. A live reference begins within a reference that is found if and only if the
scan comes to no dead opening delimiter that overlaps it from the left (`live_opening_found_iff`). The
positions that the scan comes to (`Comes`) are given by the text alone. Where the opening delimiter cannot
overlap itself, as when it is a single character, nothing is missed. -/

namespace Literate

open Text

namespace Segment

open Delimiters

variable {d : Delimiters} {t : Text} {p q : Nat} {segments : List Segment}

/-! ### The segment at a position -/

/-- The segment that holds a position of the text. -/
def holding : List Segment → Nat → Option Segment
  | [], _ => none
  | s :: rest, p => if p < s.raw.length then some s else holding rest (p - s.raw.length)

/-- A position lies within a reference. -/
def Covers (segments : List Segment) (p : Nat) : Prop := ∃ r, holding segments p = some (.reference r)

theorem covers_literal {u : Text} :
    Covers (.literal u :: segments) p ↔ u.length ≤ p ∧ Covers segments (p - u.length) := by
  unfold Covers
  rw [holding, raw]
  by_cases hlt : p < u.length
  · simp [hlt]
  · simp [hlt, Nat.le_of_not_lt hlt]

theorem covers_reference {r : Reference} :
    Covers (.reference r :: segments) p ↔ p < r.raw.length ∨ Covers segments (p - r.raw.length) := by
  unfold Covers
  rw [holding, raw]
  by_cases hlt : p < r.raw.length
  · simp [hlt]
  · simp [hlt]

theorem covers_pushChar {c : Char} :
    Covers (pushChar c segments) p ↔ 1 ≤ p ∧ Covers segments (p - 1) := by
  cases segments with
  | nil => exact covers_literal
  | cons s rest =>
      cases s with
      | reference r => exact covers_literal
      | literal u =>
          have hsub : p - (u.length + 1) = p - 1 - u.length := by omega
          have hle : u.length + 1 ≤ p ↔ 1 ≤ p ∧ u.length ≤ p - 1 := by omega
          rw [pushChar, covers_literal, covers_literal, List.length_cons, hsub, hle, and_assoc]

theorem covers_pushText {u : Text} :
    Covers (pushText u segments) p ↔ u.length ≤ p ∧ Covers segments (p - u.length) := by
  induction u generalizing p with
  | nil => simp [pushText]
  | cons c cs ih =>
      have hsub : p - 1 - cs.length = p - (cs.length + 1) := by omega
      have hle : 1 ≤ p ∧ cs.length ≤ p - 1 ↔ cs.length + 1 ≤ p := by omega
      rw [pushText_cons, covers_pushChar, ih, List.length_cons, ← and_assoc, hle, hsub]

/-! ### The way of the scan -/

/-- The positions that the scan comes to. It goes on by one character where no opening delimiter stands,
behind the delimiter if no live reference begins with it, and else behind the reference. -/
inductive Comes (d : Delimiters) (t : Text) : Nat → Prop
  | start : Comes d t 0
  | plain {p : Nat} (h : Comes d t p) (hlt : p < t.length) (hopens : ¬ d.OpensAt t p) :
      Comes d t (p + 1)
  | dead {p : Nat} (h : Comes d t p) (hopens : d.OpensAt t p) (hdead : ¬ d.LiveAt t p) :
      Comes d t (p + d.opening.length)
  | live {p : Nat} {r : Reference} (h : Comes d t p) (hr : d.ReadsAt t p r) :
      Comes d t (p + r.raw.length)

/-- What lies ahead of a position that the scan comes to is decided from there on. -/
theorem Comes.covers_iff (hopening : d.opening ≠ []) (h : Comes d t q) (hle : q ≤ p) :
    Covers (tokenize d t) p ↔ Covers (scanAt d t q) (p - q) := by
  induction h with
  | start => rfl
  | @plain x _ hlt hopens ih =>
      have hsub : p - x - 1 = p - (x + 1) := by omega
      rw [ih (by omega), scanAt_plain hlt hopens, covers_pushChar, hsub]
      exact and_iff_right (by omega)
  | @dead x _ hopens hdead ih =>
      have hsub : p - x - d.opening.length = p - (x + d.opening.length) := by omega
      rw [ih (by omega), scanAt_dead hopening hopens hdead, covers_pushText, hsub]
      exact and_iff_right (by omega)
  | @live x r _ hr ih =>
      have hsub : p - x - r.raw.length = p - (x + r.raw.length) := by omega
      rw [ih (by omega), scanAt_live hr, covers_reference, hsub]
      exact or_iff_right (by omega)

/-- The scan comes to a dead opening delimiter at `q` and goes on behind it, past the position `p`. -/
structure Hides (d : Delimiters) (t : Text) (q p : Nat) : Prop where
  comes : Comes d t q
  opens : d.OpensAt t q
  dead : ¬ d.LiveAt t q
  lt : q < p
  overlaps : p < q + d.opening.length

theorem Hides.not_covers (hopening : d.opening ≠ []) (h : Hides d t q p) :
    ¬ Covers (tokenize d t) p := by
  have hlt := h.lt
  have hoverlaps := h.overlaps
  rw [h.comes.covers_iff hopening (by omega), scanAt_dead hopening h.opens h.dead, covers_pushText]
  rintro ⟨hle, -⟩
  omega

/-- A live reference that nothing hides lies within one that is found: the scan comes to its first
character, or takes a reference that holds it. -/
theorem covers_of_not_hidden (hopening : d.opening ≠ []) (hlive : d.LiveAt t p)
    (hclear : ∀ q, ¬ Hides d t q p) (x : Nat) (hcomes : Comes d t x) (hle : x ≤ p) :
    Covers (scanAt d t x) (p - x) := by
  induction x using position_induction t hopening with
  | finish x hx =>
      have hlength := hlive.opensAt.le_length hopening
      have hwidth := List.length_pos_of_ne_nil hopening
      omega
  | plain x hlt hopens ih =>
      have hne : x ≠ p := by
        rintro rfl
        exact hopens hlive.opensAt
      rw [scanAt_plain hlt hopens, covers_pushChar, Nat.sub_sub]
      exact ⟨by omega, ih (.plain hcomes hlt hopens) (by omega)⟩
  | dead x hopens hdead ih =>
      have hne : x ≠ p := by
        rintro rfl
        exact hdead hlive
      have hbehind : x + d.opening.length ≤ p := by
        by_contra hoverlaps
        exact hclear x ⟨hcomes, hopens, hdead, by omega, by omega⟩
      rw [scanAt_dead hopening hopens hdead, covers_pushText, Nat.sub_sub]
      exact ⟨by omega, ih (.dead hcomes hopens hdead) hbehind⟩
  | live x r hr ih =>
      rw [scanAt_live hr, covers_reference, Nat.sub_sub]
      by_cases hwithin : p - x < r.raw.length
      · exact .inl hwithin
      · exact .inr (ih (.live hcomes hr) (by omega))

/-! ### Delimiters that overlap themselves -/

/-- A text overlaps itself: the end of one occurrence can be the beginning of the next. -/
def SelfOverlapping (u : Text) : Prop := ∃ k, 0 < k ∧ k < u.length ∧ u.drop k <+: u

theorem Hides.selfOverlapping (h : Hides d t q p) (hopens : d.OpensAt t p) :
    SelfOverlapping d.opening := by
  have hlt := h.lt
  have hoverlaps := h.overlaps
  refine ⟨p - q, by omega, by omega, ?_⟩
  have hdrop : t.drop p = d.opening.drop (p - q) ++ t.drop (q + d.opening.length) := by
    have hp : p = q + (p - q) := by omega
    rw [hp, ← List.drop_drop, h.opens.drop_eq, Nat.add_sub_cancel_left,
      List.drop_append_of_le_length (by omega)]
  refine List.prefix_of_prefix_length_le ?_ hopens ?_
  · exact ⟨_, hdrop.symm⟩
  · rw [List.length_drop]
    omega

/-- A live reference begins within a reference that is found if and only if no dead opening delimiter hides
it, and always does so where the opening delimiter does not overlap itself. -/
theorem live_opening_found_iff (d : Delimiters) (t : Text) (p : Nat) (hopening : d.opening ≠ [])
    (hlive : d.LiveAt t p) :
    ((∃ r, holding (tokenize d t) p = some (.reference r)) ↔ ¬ ∃ q, Hides d t q p) ∧
      (¬ SelfOverlapping d.opening → ∃ r, holding (tokenize d t) p = some (.reference r)) := by
  have hfound : (¬ ∃ q, Hides d t q p) → Covers (tokenize d t) p := fun hclear =>
    covers_of_not_hidden hopening hlive (not_exists.1 hclear) 0 .start (Nat.zero_le p)
  refine ⟨⟨?_, hfound⟩, fun hoverlap => hfound ?_⟩
  · rintro hcovers ⟨q, hq⟩
    exact hq.not_covers hopening hcovers
  · rintro ⟨q, hq⟩
    exact hoverlap (hq.selfOverlapping hlive.opensAt)

/-- The second of four characters begins a dead opening delimiter, but the scan does not come to it. -/
theorem live_opening_found_fourfold :
    angled.opening ≠ [] ∧ angled.LiveAt "<<<<a>>".toList 2 ∧ angled.OpensAt "<<<<a>>".toList 1 ∧
      ¬ angled.LiveAt "<<<<a>>".toList 1 ∧
      ∃ r, holding (tokenize angled "<<<<a>>".toList) 2 = some (.reference r) := by
  have hlive : angled.LiveAt "<<<<a>>".toList 2 := by decide
  refine ⟨by decide, hlive, by decide, by decide, ?_⟩
  refine (live_opening_found_iff angled _ 2 (by decide) hlive).1.2 ?_
  rintro ⟨q, hq⟩
  have hone : q = 1 := by
    have hlt := hq.lt
    have hoverlaps : 2 < q + 2 := hq.overlaps
    omega
  have hcomes := hq.comes
  generalize hx : q = x at hcomes
  cases hcomes with
  | start => omega
  | @plain x _ _ hopens =>
      obtain rfl : x = 0 := by omega
      exact hopens (by decide)
  | @dead x _ _ _ =>
      have hwidth : angled.opening.length = 2 := rfl
      omega
  | @live x r _ hr =>
      have hwidth : 2 ≤ r.raw.length := hr.length_opening_le
      omega

/-- A live reference that is not found: the opening delimiter before it takes its first character. -/
theorem live_opening_hidden :
    angled.LiveAt "<<<a>>".toList 1 ∧
      holding (tokenize angled "<<<a>>".toList) 1 = some (.literal "<<<a>>".toList) := by
  have htokens : tokenize angled "<<<a>>".toList = [.literal "<<<a>>".toList] := by cbv
  refine ⟨by decide, ?_⟩
  rw [htokens]
  rfl

end Segment
end Literate
