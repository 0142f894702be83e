import Mathlib
import Literate.Proofs.Segment
import Literate.Proofs.Texts

/-! # The scan by positions

What the scan of a text does at a position, for delimiters of any length. `scanAt d t p` are the segments of
the text `t` from the position `p` on. There are four cases, and each has its equation:

* at the end of the text there is nothing more (`scanAt_end`);
* where no opening delimiter stands, one character is literal (`scanAt_plain`);
* an opening delimiter that begins no live reference is literal as a whole (`scanAt_dead`);
* a live reference is taken (`scanAt_live`).

In every case the scan goes on at a later position, which makes the cases an induction principle
(`position_induction`). Whether a reference is live at a position is said of the text alone (`LiveAt`). -/

namespace Literate

open Text

/-! ### Occurrences of a pattern -/

namespace Text

variable {pattern t before after : Text}

/-- The character before a position. -/
def before? (t : Text) (p : Nat) : Option Char := (t.take p).getLast?

theorem before?_length (a b : Text) : before? (a ++ b) a.length = a.getLast? := by
  rw [before?, List.take_left]

/-- A pattern that does not occur behind a position does not occur behind a later one. -/
theorem cut?_drop_eq_none {p q : Nat} (hle : p ≤ q) (h : cut? pattern (t.drop p) = none) :
    cut? pattern (t.drop q) = none := by
  rw [cut?_eq_none_iff] at h ⊢
  exact fun hoccurs => h (hoccurs.trans (List.drop_suffix_drop_left t hle).isInfix)

/-- A pattern is found at its first occurrence: at once, or behind a first character at which it does not
stand. -/
theorem cut?_cons_eq_some {c : Char} {cs : Text} (h : cut? pattern (c :: cs) = some (before, after)) :
    before = [] ∧ pattern <+: c :: cs ∨
      ∃ rest, before = c :: rest ∧ ¬ pattern <+: c :: cs ∧ cut? pattern cs = some (rest, after) := by
  rw [cut?] at h
  split at h
  · next rest hrest =>
      obtain ⟨rfl, -⟩ := Prod.mk.inj (Option.some.inj h)
      exact .inl ⟨rfl, rest, (after?_eq_some_iff.1 hrest).symm⟩
  · next hnone =>
      obtain ⟨⟨rest, tail⟩, hcut, heq⟩ := Option.map_eq_some_iff.1 h
      obtain ⟨rfl, rfl⟩ := Prod.mk.inj heq
      exact .inr ⟨rest, rfl, after?_eq_none_iff.1 hnone, hcut⟩

end Text

/-! ### What stands at a position -/

namespace Delimiters

variable (d : Delimiters) (t : Text) (p : Nat)

/-- The opening delimiter stands at a position. -/
def OpensAt : Prop := d.opening <+: t.drop p

instance : Decidable (d.OpensAt t p) := inferInstanceAs (Decidable (d.opening <+: t.drop p))

/-- A live reference stands at a position: it begins with an opening delimiter that the character before
does not protect, and what follows up to the next closing delimiter is read as a reference. -/
structure ReadsAt (r : Reference) : Prop where
  opens : d.OpensAt t p
  exposed : d.protectedBy (before? t p) = false
  reads : ∃ inner after q, cut? d.closing (t.drop (p + d.opening.length)) = some (inner, after) ∧
    Reference.parse? inner = some q ∧ r = { q with raw := d.opening ++ inner ++ d.closing }

/-- Some live reference stands at a position. -/
def LiveAt : Prop := ∃ r, d.ReadsAt t p r

variable {d t p} {r : Reference} {after : Text}

theorem OpensAt.drop_eq (h : d.OpensAt t p) :
    t.drop p = d.opening ++ t.drop (p + d.opening.length) := by
  obtain ⟨rest, hrest⟩ := h
  rw [← List.drop_drop, ← hrest, List.drop_left]

theorem OpensAt.le_length (h : d.OpensAt t p) (hopening : d.opening ≠ []) :
    p + d.opening.length ≤ t.length := by
  have hlength := h.length_le
  have hpos := List.length_pos_of_ne_nil hopening
  rw [List.length_drop] at hlength
  omega

/-- A reference that is read stands there, and the text behind it is what is left. -/
theorem readsAt_iff : d.ReadsAt t p r ↔ d.protectedBy (before? t p) = false ∧
    Reference.read? d (t.drop p) = some (r, t.drop (p + r.raw.length)) := by
  constructor
  · rintro ⟨hopens, hexposed, inner, after, q, hcut, hq, rfl⟩
    have hopening : after? d.opening (t.drop p) = some (t.drop (p + d.opening.length)) :=
      after?_eq_some_iff.2 hopens.drop_eq
    have hafter : after = t.drop (p + (d.opening ++ inner ++ d.closing).length) := by
      have htext := eq_append_of_cut? hcut
      rw [List.length_append, List.length_append, ← Nat.add_assoc, ← Nat.add_assoc, ← List.drop_drop,
        ← List.drop_drop, htext, List.drop_left, List.drop_left]
    refine ⟨hexposed, ?_⟩
    rw [Reference.read?, hopening]
    simp [hcut, hq, hafter]
  · rintro ⟨hexposed, hread⟩
    unfold Reference.read? at hread
    split at hread
    · cases hread
    · next rest hrest =>
        have hopening := after?_eq_some_iff.1 hrest
        have hopens : d.OpensAt t p := ⟨rest, hopening.symm⟩
        split at hread
        · cases hread
        · next inner tail hcut =>
            obtain ⟨q, hq, heq⟩ := Option.map_eq_some_iff.1 hread
            obtain ⟨rfl, -⟩ := Prod.mk.inj heq
            refine ⟨hopens, hexposed, inner, tail, q, ?_, hq, rfl⟩
            rw [← List.append_cancel_left (hopening.symm.trans hopens.drop_eq)]
            exact hcut

theorem readsAt_of_read? (hexposed : d.protectedBy (before? t p) = false)
    (hread : Reference.read? d (t.drop p) = some (r, after)) : d.ReadsAt t p r := by
  have htext := (Reference.eq_append_of_read? hread).1
  refine readsAt_iff.2 ⟨hexposed, ?_⟩
  rw [hread, ← List.drop_drop, htext, List.drop_left]

theorem ReadsAt.drop_eq (h : d.ReadsAt t p r) : t.drop p = r.raw ++ t.drop (p + r.raw.length) :=
  (Reference.eq_append_of_read? (readsAt_iff.1 h).2).1

theorem ReadsAt.raw_ne_nil (h : d.ReadsAt t p r) : r.raw ≠ [] :=
  (Reference.eq_append_of_read? (readsAt_iff.1 h).2).2

theorem ReadsAt.length_opening_le (h : d.ReadsAt t p r) : d.opening.length ≤ r.raw.length := by
  obtain ⟨inner, after, q, -, -, rfl⟩ := h.reads
  simp only [List.length_append]
  omega

theorem ReadsAt.le_length (h : d.ReadsAt t p r) : p + r.raw.length ≤ t.length := by
  have hlength := congrArg List.length h.drop_eq
  have hpos := List.length_pos_of_ne_nil h.raw_ne_nil
  rw [List.length_append, List.length_drop, List.length_drop] at hlength
  omega

theorem liveAt_iff : d.LiveAt t p ↔
    d.protectedBy (before? t p) = false ∧ (Reference.read? d (t.drop p)).isSome = true := by
  constructor
  · rintro ⟨r, hr⟩
    obtain ⟨hexposed, hread⟩ := readsAt_iff.1 hr
    exact ⟨hexposed, by rw [hread]; rfl⟩
  · rintro ⟨hexposed, hread⟩
    obtain ⟨⟨r, after⟩, hr⟩ := Option.isSome_iff_exists.1 hread
    exact ⟨r, readsAt_of_read? hexposed hr⟩

instance : Decidable (d.LiveAt t p) := decidable_of_iff _ liveAt_iff.symm

theorem LiveAt.opensAt (h : d.LiveAt t p) : d.OpensAt t p := h.elim fun _ hr => hr.opens

end Delimiters

/-! ### The four cases of the scan -/

namespace Segment

open Delimiters

variable {d : Delimiters} {t : Text} {p : Nat}

/-- The segments from a position on. -/
def scanAt (d : Delimiters) (t : Text) (p : Nat) : List Segment := scan d (before? t p) (t.drop p)

theorem scanAt_end (h : t.length ≤ p) : scanAt d t p = [] := by
  rw [scanAt, List.drop_eq_nil_of_le h, scan]

theorem scan_getLast? {u : Text} (hu : u ≠ []) (h : t.drop p = u ++ t.drop (p + u.length))
    (hle : p ≤ t.length) :
    scan d u.getLast? (t.drop (p + u.length)) = scanAt d t (p + u.length) := by
  have htake : t.take (p + u.length) = t.take p ++ u := by
    have ht : t = t.take p ++ (u ++ t.drop (p + u.length)) := by rw [← h, List.take_append_drop]
    have hlength : (t.take p ++ u).length = p + u.length := by
      rw [List.length_append, List.length_take_of_le hle]
    calc t.take (p + u.length)
        = (t.take p ++ u ++ t.drop (p + u.length)).take (t.take p ++ u).length := by
          rw [hlength, List.append_assoc, ← ht]
      _ = t.take p ++ u := List.take_left
  rw [scanAt, before?, htake, List.getLast?_append_of_ne_nil _ hu]

theorem scanAt_plain (hlt : p < t.length) (h : ¬ d.OpensAt t p) :
    scanAt d t p = pushChar t[p] (scanAt d t (p + 1)) := by
  have hdrop : t.drop p = t[p] :: t.drop (p + 1) := List.drop_eq_getElem_cons hlt
  have hopening : d.opening.isPrefixOf (t[p] :: t.drop (p + 1)) = false := by
    rw [← hdrop, Bool.eq_false_iff, Ne, List.isPrefixOf_iff_prefix]
    exact h
  have hnext : scan d (some t[p]) (t.drop (p + 1)) = scanAt d t (p + 1) :=
    scan_getLast? (u := [t[p]]) (List.cons_ne_nil _ _) hdrop (Nat.le_of_lt hlt)
  rw [scanAt, hdrop, scan, hopening, if_neg Bool.false_ne_true, hnext]

theorem scanAt_dead (hopening : d.opening ≠ []) (h : d.OpensAt t p) (hdead : ¬ d.LiveAt t p) :
    scanAt d t p = pushText d.opening (scanAt d t (p + d.opening.length)) := by
  have hle := h.le_length hopening
  have hnext := scan_getLast? (d := d) hopening h.drop_eq (by omega)
  obtain ⟨o, os, ho⟩ := List.exists_cons_of_ne_nil hopening
  have hdrop : t.drop p = o :: (os ++ t.drop (p + d.opening.length)) := by
    rw [h.drop_eq, ho]
    rfl
  have hstarts : d.opening.isPrefixOf (o :: (os ++ t.drop (p + d.opening.length))) = true := by
    rw [← hdrop, List.isPrefixOf_iff_prefix]
    exact h
  have hnone : (if d.protectedBy (before? t p) then none else
      Reference.read? d (o :: (os ++ t.drop (p + d.opening.length)))) = none := by
    rw [liveAt_iff, hdrop] at hdead
    split
    · rfl
    · next hexposed => simpa [hexposed] using hdead
  have hwidth : d.opening.length - 1 = os.length := by rw [ho]; rfl
  rw [scanAt, hdrop, scan, if_pos hstarts]
  split
  · next heq => rw [hnone] at heq; cases heq
  · dsimp only
    rw [hwidth, List.take_left, List.drop_left, ← ho, hnext]

theorem scanAt_live {r : Reference} (h : d.ReadsAt t p r) :
    scanAt d t p = .reference r :: scanAt d t (p + r.raw.length) := by
  obtain ⟨hexposed, hread⟩ := readsAt_iff.1 h
  have hle := h.le_length
  have hnext := scan_getLast? (d := d) h.raw_ne_nil h.drop_eq (by omega)
  obtain ⟨c, cs, hc⟩ : ∃ c cs, t.drop p = c :: cs := by
    refine List.exists_cons_of_ne_nil fun hnil => h.raw_ne_nil ?_
    exact (List.append_eq_nil_iff.1 (h.drop_eq.symm.trans hnil)).1
  have hstarts : d.opening.isPrefixOf (c :: cs) = true := by
    rw [← hc, List.isPrefixOf_iff_prefix]
    exact h.opens
  have hsome : (if d.protectedBy (before? t p) then none else Reference.read? d (c :: cs)) =
      some (r, t.drop (p + r.raw.length)) := by
    rw [hexposed, ← hc]
    exact hread
  rw [scanAt, hc, scan, if_pos hstarts]
  split
  · next heq =>
      rw [hsome] at heq
      obtain ⟨rfl, rfl⟩ := Prod.mk.inj (Option.some.inj heq)
      rw [hnext]
  · next heq => rw [hsome] at heq; cases heq

/-- What holds at the end of a text, and at every position if it holds where the scan goes on from there,
holds at all positions. -/
theorem position_induction (t : Text) (hopening : d.opening ≠ []) {motive : Nat → Prop}
    (finish : ∀ p, t.length ≤ p → motive p)
    (plain : ∀ p, p < t.length → ¬ d.OpensAt t p → motive (p + 1) → motive p)
    (dead : ∀ p, d.OpensAt t p → ¬ d.LiveAt t p → motive (p + d.opening.length) → motive p)
    (live : ∀ p r, d.ReadsAt t p r → motive (p + r.raw.length) → motive p) (p : Nat) : motive p := by
  induction hrest : t.length - p using Nat.strong_induction_on generalizing p with
  | _ rest ih =>
      by_cases hlt : p < t.length
      · by_cases hopens : d.OpensAt t p
        · by_cases hlive : d.LiveAt t p
          · obtain ⟨r, hr⟩ := hlive
            have hpos := List.length_pos_of_ne_nil hr.raw_ne_nil
            exact live p r hr (ih _ (by omega) _ rfl)
          · have hpos := List.length_pos_of_ne_nil hopening
            exact dead p hopens hlive (ih _ (by omega) _ rfl)
        · exact plain p hlt hopens (ih _ (by omega) _ rfl)
      · exact finish p (by omega)

end Segment
end Literate
