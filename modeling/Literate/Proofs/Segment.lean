import Mathlib
import Literate.Reference

/-! # Finding references

How a text is cut into segments when each delimiter is a single character. The scan goes on one
character at a time, and takes a reference exactly at an opening delimiter that is not protected and
begins one (`scan_cons_of_live`). A text in which every opening delimiter is protected holds no
reference (`quiet_of_protected`), the start of a text without references holds none either
(`quiet_of_append`), and a name between the delimiters is read back (`scan_named`). With delimiters of
any length, the segments hold the whole text (`flatMap_raw_scan`). -/

namespace Literate

open Text

/-! ### Cutting at a single character -/

theorem Text.cut?_singleton {k : Char} : ∀ {t before after : Text},
    cut? [k] t = some (before, after) ↔ t = before ++ k :: after ∧ k ∉ before
  | [], before, after => by simp [cut?]
  | c :: cs, before, after => by
      by_cases hc : k = c
      · subst hc
        simp only [cut?, after?, if_pos, Option.some.injEq, Prod.mk.injEq]
        constructor
        · rintro ⟨rfl, rfl⟩
          simp
        · rintro ⟨h, hk⟩
          cases before with
          | nil => simpa using h
          | cons b before =>
              obtain ⟨rfl, -⟩ := List.cons.inj h
              exact absurd List.mem_cons_self hk
      · simp only [cut?, after?, if_neg hc]
        rw [Option.map_eq_some_iff]
        constructor
        · rintro ⟨⟨b, a⟩, hcut, h⟩
          obtain ⟨rfl, rfl⟩ := Prod.mk.inj h
          obtain ⟨rfl, hk⟩ := cut?_singleton.1 hcut
          exact ⟨rfl, by simp [hc, hk]⟩
        · rintro ⟨h, hk⟩
          cases before with
          | nil =>
              obtain ⟨rfl, -⟩ := List.cons.inj h
              exact absurd rfl hc
          | cons b before =>
              obtain ⟨rfl, rfl⟩ := List.cons.inj h
              exact ⟨(before, after),
                cut?_singleton.2 ⟨rfl, fun hm => hk (List.mem_cons_of_mem _ hm)⟩, rfl⟩

theorem Text.splitAtChar_of_not_mem {sep : Char} : ∀ {t : Text}, sep ∉ t → splitAtChar sep t = [t]
  | [], _ => rfl
  | c :: cs, h => by
      rw [List.mem_cons, not_or] at h
      simp [splitAtChar, Ne.symm h.1, splitAtChar_of_not_mem h.2]

theorem Text.getLast?_cons_or (c : Char) (t : Text) (last : Option Char) :
    (c :: t).getLast?.or last = t.getLast?.or (some c) := by
  cases ht : t.getLast? <;> simp [List.getLast?_cons, ht]

namespace Reference

theorem eq_append_of_read? {d : Delimiters} {t after : Text} {r : Reference}
    (h : read? d t = some (r, after)) : t = r.raw ++ after ∧ r.raw ≠ [] := by
  unfold read? at h
  split at h
  · cases h
  · next rest hrest =>
      split at h
      · cases h
      · next inner tail hcut =>
          obtain ⟨q, hq, heq⟩ := Option.map_eq_some_iff.1 h
          obtain ⟨rfl, rfl⟩ := Prod.mk.inj heq
          rw [after?_eq_some_iff.1 hrest, eq_append_of_cut? hcut]
          refine ⟨by simp, ?_⟩
          cases inner with
          | nil => rw [parse?_nil] at hq; cases hq
          | cons c cs => simp

theorem read?_append {d : Delimiters} {k : Char} (hk : d.closing = [k]) {t after : Text}
    {r : Reference} (h : read? d t = some (r, after)) (u : Text) :
    read? d (t ++ u) = some (r, after ++ u) := by
  unfold read? at h ⊢
  cases hrest : after? d.opening t with
  | none => simp [hrest] at h
  | some rest =>
      have hrest' : after? d.opening (t ++ u) = some (rest ++ u) := by
        rw [after?_eq_some_iff.1 hrest]
        exact after?_eq_some_iff.2 (List.append_assoc _ _ _)
      rw [hk] at h ⊢
      simp only [hrest, hrest'] at h ⊢
      cases hcut : cut? [k] rest with
      | none => simp [hcut] at h
      | some p =>
          obtain ⟨inner, tail⟩ := p
          obtain ⟨rfl, hinner⟩ := cut?_singleton.1 hcut
          have hcut' : cut? [k] (inner ++ k :: tail ++ u) = some (inner, tail ++ u) :=
            cut?_singleton.2 ⟨by simp, hinner⟩
          simp only [hcut, hcut'] at h ⊢
          obtain ⟨s, hs, he⟩ := Option.map_eq_some_iff.1 h
          obtain ⟨rfl, rfl⟩ := Prod.mk.inj he
          rw [hs]
          rfl

theorem read?_eq_some_iff {d : Delimiters} {o k : Char} (hd : d.opening = [o]) (hk : d.closing = [k])
    {t after : Text} {r : Reference} :
    read? d (o :: t) = some (r, after) ↔ ∃ inner s, t = inner ++ k :: after ∧ k ∉ inner ∧
      parse? inner = some s ∧ r = { s with raw := o :: inner ++ [k] } := by
  have hrest : after? d.opening (o :: t) = some t := by
    rw [hd]
    exact after?_eq_some_iff.2 rfl
  unfold read?
  rw [hrest, hk, hd]
  dsimp only
  constructor
  · intro h
    cases hcut : cut? [k] t with
    | none => simp [hcut] at h
    | some p =>
        obtain ⟨inner, tail⟩ := p
        simp only [hcut] at h
        obtain ⟨s, hs, he⟩ := Option.map_eq_some_iff.1 h
        obtain ⟨rfl, rfl⟩ := Prod.mk.inj he
        obtain ⟨htext, hinner⟩ := cut?_singleton.1 hcut
        exact ⟨inner, s, htext, hinner, hs, rfl⟩
  · rintro ⟨inner, s, htext, hinner, hs, rfl⟩
    rw [cut?_singleton.2 ⟨htext, hinner⟩]
    simp [hs]

theorem isTokenChar_of_parse? {inner : Text} {r : Reference} (h : parse? inner = some r) :
    ∀ c ∈ inner, isTokenChar c = true := by
  unfold parse? at h
  split at h
  · next hall => exact List.all_eq_true.1 hall
  · cases h

/-- The names that can stand between delimiters: not empty, without white space around them, and made
of token characters other than the bar. -/
structure IsName (name : Text) : Prop where
  nonempty : name ≠ []
  stripped : strip name = name
  token : ∀ c ∈ name, isTokenChar c = true ∧ c ≠ '|'

theorem isName_iff {name : Text} : IsName name ↔
    name ≠ [] ∧ strip name = name ∧ (name.all fun c => isTokenChar c && c != '|') = true := by
  constructor
  · intro h
    refine ⟨h.nonempty, h.stripped, List.all_eq_true.2 fun c hc => ?_⟩
    simpa using h.token c hc
  · rintro ⟨hne, hstrip, hall⟩
    refine ⟨hne, hstrip, fun c hc => ?_⟩
    simpa using List.all_eq_true.1 hall c hc

instance (name : Text) : Decidable (IsName name) := decidable_of_iff _ isName_iff.symm

theorem parse?_name {name : Text} (h : IsName name) : parse? name = some { name } := by
  have hall : name.all isTokenChar = true := List.all_eq_true.2 fun c hc => (h.token c hc).1
  have hbar : '|' ∉ name := fun hm => (h.token _ hm).2 rfl
  have hne : name.isEmpty = false := by simpa using h.nonempty
  unfold parse?
  rw [if_pos hall, splitAtChar_of_not_mem hbar]
  simp [h.stripped, hne]

end Reference

namespace Segment

open Reference

/-- No segment is a reference. -/
def Quiet (segments : List Segment) : Prop := ∀ s ∈ segments, s.reference? = none

theorem quiet_iff {segments : List Segment} :
    Quiet segments ↔ (segments.any fun s => s.reference?.isSome) = false := by
  simp [Quiet]

theorem quiet_nil : Quiet [] := by simp [Quiet]

theorem not_quiet_reference {r : Reference} {segments : List Segment} :
    ¬ Quiet (.reference r :: segments) := by simp [Quiet, reference?]

theorem quiet_pushChar {c : Char} {segments : List Segment} :
    Quiet (pushChar c segments) ↔ Quiet segments := by
  cases segments with
  | nil => simp [pushChar, Quiet, reference?]
  | cons s rest => cases s <;> simp [pushChar, Quiet, reference?]

/-! ### One step of the scan -/

variable {d : Delimiters} {o k : Char} {last : Option Char} {c : Char} {cs : Text}

theorem scan_cons_of_ne (hd : d.opening = [o]) (hc : c ≠ o) :
    scan d last (c :: cs) = pushChar c (scan d (some c) cs) := by
  rw [scan, hd]
  simp [Ne.symm hc]

theorem scan_cons_of_dead (hd : d.opening = [o])
    (h : d.protectedBy last = true ∨ read? d (o :: cs) = none) :
    scan d last (o :: cs) = pushChar o (scan d (some o) cs) := by
  have hnone : (if d.protectedBy last then none else read? d (o :: cs)) = none := by
    rcases h with h | h <;> simp [h]
  rw [scan, if_pos (by simp [hd])]
  split
  · next heq => rw [hnone] at heq; cases heq
  · simp [hd, pushText]

theorem scan_cons_of_live (hd : d.opening = [o]) (hp : d.protectedBy last = false)
    {r : Reference} {after : Text} (hr : read? d (o :: cs) = some (r, after)) :
    scan d last (o :: cs) = .reference r :: scan d r.raw.getLast? after := by
  rw [scan, if_pos (by simp [hd])]
  split
  · next heq =>
      rw [hp] at heq
      simp only [Bool.false_eq_true, if_false, hr, Option.some.injEq, Prod.mk.injEq] at heq
      obtain ⟨rfl, rfl⟩ := heq
      rfl
  · next heq => simp [hp, hr] at heq

/-- A text holds no reference if none begins at its first character and the rest holds none. -/
theorem quiet_scan_cons (hd : d.opening = [o]) :
    Quiet (scan d last (c :: cs)) ↔
      (c = o → d.protectedBy last = true ∨ read? d (c :: cs) = none) ∧
        Quiet (scan d (some c) cs) := by
  by_cases hc : c = o
  · subst hc
    cases hp : d.protectedBy last with
    | true => rw [scan_cons_of_dead hd (.inl hp), quiet_pushChar]; simp
    | false =>
        cases hr : read? d (c :: cs) with
        | none => rw [scan_cons_of_dead hd (.inr hr), quiet_pushChar]; simp
        | some p =>
            rw [scan_cons_of_live hd hp hr]
            simp [not_quiet_reference]
  · rw [scan_cons_of_ne hd hc, quiet_pushChar]
    simp [hc]

/-! ### Whole texts -/

/-- Every opening delimiter stands directly behind an escape; `last` is the character before. -/
def Protected (d : Delimiters) (o : Char) : Option Char → Text → Prop
  | _, [] => True
  | last, c :: cs => (c = o → d.protectedBy last = true) ∧ Protected d o (some c) cs

theorem quiet_of_protected (hd : d.opening = [o]) : ∀ {last : Option Char} {t : Text},
    Protected d o last t → Quiet (scan d last t)
  | _, [], _ => by
      rw [scan]
      exact quiet_nil
  | _, _ :: _, h => (quiet_scan_cons hd).2 ⟨fun hc => .inl (h.1 hc), quiet_of_protected hd h.2⟩

/-- What stands behind a text may complete a reference but takes none away. -/
theorem quiet_of_append (hd : d.opening = [o]) (hk : d.closing = [k]) (u : Text) :
    ∀ {last : Option Char} {t : Text}, Quiet (scan d last (t ++ u)) → Quiet (scan d last t)
  | _, [], _ => by
      rw [scan]
      exact quiet_nil
  | last, c :: cs, h => by
      rw [List.cons_append, quiet_scan_cons hd] at h
      refine (quiet_scan_cons hd).2 ⟨fun hc => ?_, quiet_of_append hd hk u h.2⟩
      rcases h.1 hc with hp | hnone
      · exact .inl hp
      · refine .inr (Option.eq_none_iff_forall_ne_some.2 fun p hr => ?_)
        have := read?_append hk hr u
        rw [List.cons_append, hnone] at this
        cases this

theorem scan_named (hd : d.opening = [o]) (hk : d.closing = [k])
    (hp : d.protectedBy last = false) {name : Text} (hname : IsName name) (hclose : k ∉ name)
    (rest : Text) :
    scan d last (o :: name ++ k :: rest) =
      .reference { name, raw := o :: name ++ [k] } :: scan d (some k) rest := by
  have hcut : cut? [k] (name ++ k :: rest) = some (name, rest) :=
    cut?_singleton.2 ⟨rfl, hclose⟩
  have hread : read? d (o :: name ++ k :: rest) =
      some ({ name, raw := o :: name ++ [k] }, rest) := by
    unfold read?
    rw [hd, hk]
    simp [after?, hcut, parse?_name hname]
  have := scan_cons_of_live hd hp hread
  rwa [List.getLast?_append_of_ne_nil _ (by simp), List.getLast?_singleton] at this

/-! ### Nothing is lost -/

theorem flatMap_raw_pushChar (c : Char) (segments : List Segment) :
    (pushChar c segments).flatMap raw = c :: segments.flatMap raw := by
  unfold pushChar
  split <;> simp [raw]

theorem raw_pushChar_ne_nil {c : Char} {segments : List Segment}
    (h : ∀ s ∈ segments, s.raw ≠ []) : ∀ s ∈ pushChar c segments, s.raw ≠ [] := by
  unfold pushChar
  split
  · rw [List.forall_mem_cons] at h ⊢
    exact ⟨by simp [raw], h.2⟩
  · exact List.forall_mem_cons.2 ⟨by simp [raw], h⟩

theorem flatMap_raw_pushText (t : Text) (segments : List Segment) :
    (pushText t segments).flatMap raw = t ++ segments.flatMap raw := by
  induction t with
  | nil => rfl
  | cons c cs ih => rw [pushText, List.foldr_cons, flatMap_raw_pushChar, ← pushText, ih]; rfl

theorem raw_pushText_ne_nil {t : Text} {segments : List Segment}
    (h : ∀ s ∈ segments, s.raw ≠ []) : ∀ s ∈ pushText t segments, s.raw ≠ [] := by
  induction t with
  | nil => exact h
  | cons c cs ih => exact raw_pushChar_ne_nil ih

/-- Nothing of a text is lost when it is cut into segments, and no segment is empty. -/
theorem flatMap_raw_scan (d : Delimiters) (last : Option Char) (t : Text) :
    (scan d last t).flatMap raw = t ∧ ∀ s ∈ scan d last t, s.raw ≠ [] := by
  fun_induction scan d last t with
  | case1 => simp
  | case2 last c cs hopen r after h ih =>
      have hread : read? d (c :: cs) = some (r, after) := by
        split at h
        · cases h
        · exact h
      obtain ⟨htext, hraw⟩ := eq_append_of_read? hread
      rw [List.flatMap_cons, ih.1, htext, List.forall_mem_cons]
      exact ⟨rfl, hraw, ih.2⟩
  | case3 last c cs hopen h width ih =>
      refine ⟨?_, raw_pushText_ne_nil ih.2⟩
      rw [flatMap_raw_pushText, ih.1, List.cons_append, List.take_append_drop]
  | case4 last c cs hopen ih =>
      refine ⟨?_, raw_pushChar_ne_nil ih.2⟩
      rw [flatMap_raw_pushChar, ih.1]

end Segment
end Literate
