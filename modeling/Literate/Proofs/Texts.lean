import Mathlib
import Literate.Text.Blank
import Literate.Text.Lines

/-! # Runs, white space and occurrences

What the cuts of a text give: the longest run of a class and what follows it (`takeWhile_run`,
`dropWhile_run`), a text without the white space at its ends (`strip_eq_nil`, `strip_append`,
`strip_eq_self`), and a text cut at an occurrence of a pattern (`cut?_eq_none_iff`,
`cutLast?_eq_some_iff`). -/

namespace Literate.Text

/-! ### Runs -/

section

variable {p : Char → Bool} {run rest : Text}

/-- A run of a class is taken whole, and no more if what follows is outside the class. -/
theorem takeWhile_run (hrun : ∀ c ∈ run, p c = true) (hrest : ∀ c ∈ rest.head?, p c = false) :
    (run ++ rest).takeWhile p = run := by
  rw [List.takeWhile_append_of_pos hrun]
  cases rest with
  | nil => simp
  | cons c cs => simp [hrest c rfl]

theorem dropWhile_run (hrun : ∀ c ∈ run, p c = true) (hrest : ∀ c ∈ rest.head?, p c = false) :
    (run ++ rest).dropWhile p = rest := by
  rw [List.dropWhile_append_of_pos hrun]
  cases rest with
  | nil => rfl
  | cons c cs => simp [hrest c rfl]

theorem eq_false_of_head?_dropWhile {t : Text} : ∀ c ∈ (t.dropWhile p).head?, p c = false := by
  intro c hc
  have hnot := List.head?_dropWhile_not p t
  rw [Option.mem_def.1 hc] at hnot
  simpa using hnot

/-- A run of a narrower class is a run within the run of the wider one. -/
theorem takeWhile_takeWhile_of_imp {q : Char → Bool} (h : ∀ {c}, p c = true → q c = true) (t : Text) :
    (t.takeWhile q).takeWhile p = t.takeWhile p := by
  rw [List.takeWhile_takeWhile]
  congr 1
  funext c
  rw [Bool.eq_iff_iff]
  simpa using h

end

/-! ### White space -/

theorem isBlank_of_isNewline {c : Char} (h : isNewline c = true) : isBlank c = true := by
  simp only [isNewline, Bool.or_eq_true, beq_iff_eq] at h
  rcases h with rfl | rfl <;> rfl

theorem isBlank_of_isLineBoundary {c : Char} (h : isLineBoundary c = true) : isBlank c = true := by
  simp only [isLineBoundary, isBlank, Bool.or_eq_true, Bool.and_eq_true, decide_eq_true_eq,
    beq_iff_eq] at h ⊢
  omega

theorem trimEnd_append_cons {p : Char → Bool} {c : Char} (hc : p c = false) (a b : Text) :
    trimEnd p (a ++ c :: b) = a ++ c :: trimEnd p b := by
  unfold trimEnd
  rw [List.reverse_append, List.reverse_cons, List.dropWhile_append]
  rw [List.dropWhile_append]
  split <;> simp_all

theorem strip_eq_nil {t : Text} : strip t = [] ↔ ∀ c ∈ t, isBlank c = true := by
  unfold strip stripEnd stripStart trimEnd trimStart
  rw [List.reverse_eq_nil_iff, List.dropWhile_eq_nil_iff]
  simp only [List.mem_reverse]
  constructor
  · intro h
    rw [← List.dropWhile_eq_nil_iff]
    by_contra hne
    have hhead := List.head_dropWhile_not isBlank hne
    rw [h _ (List.head_mem hne)] at hhead
    cases hhead
  · intro h c hc
    exact h c ((List.dropWhile_sublist isBlank).subset hc)

theorem strip_append {a b : Text} (ha : ∀ c ∈ a, isBlank c = true) (hb : ∀ c ∈ b, isBlank c = true)
    (t : Text) : strip (a ++ t ++ b) = strip t := by
  have hstart : stripStart (a ++ t ++ b) = stripStart (t ++ b) := by
    rw [List.append_assoc]
    exact List.dropWhile_append_of_pos ha
  have hend : ∀ u : Text, stripEnd (u ++ b) = stripEnd u := by
    intro u
    unfold stripEnd trimEnd
    rw [List.reverse_append, List.dropWhile_append_of_pos fun c hc => hb c (List.mem_reverse.1 hc)]
  unfold strip
  rw [hstart]
  unfold stripStart trimStart
  rw [List.dropWhile_append]
  split
  · next hempty =>
      rw [List.dropWhile_eq_nil_iff.2 hb, List.isEmpty_iff.1 hempty]
  · exact hend _

theorem mem_of_mem_strip {t : Text} {c : Char} (h : c ∈ strip t) : c ∈ t := by
  have hend : c ∈ stripStart t := (List.rdropWhile_prefix isBlank _).subset h
  exact (List.dropWhile_sublist isBlank).subset hend

theorem eq_false_of_head?_strip {t : Text} : ∀ c ∈ (strip t).head?, isBlank c = false := by
  intro c hc
  obtain ⟨tail, htail⟩ : strip t <+: stripStart t := List.rdropWhile_prefix _ _
  have hfirst : (stripStart t).head? = some c := by
    rw [← htail, List.head?_append, Option.mem_def.1 hc, Option.some_or]
  exact eq_false_of_head?_dropWhile c hfirst

theorem eq_false_of_getLast?_strip {t : Text} : ∀ c ∈ (strip t).getLast?, isBlank c = false := by
  unfold strip stripEnd trimEnd
  rw [List.getLast?_reverse]
  exact eq_false_of_head?_dropWhile

/-- A text that neither starts nor ends with white space is stripped as it is. -/
theorem strip_eq_self {t : Text} (hfirst : ∀ c ∈ t.head?, isBlank c = false)
    (hlast : ∀ c ∈ t.getLast?, isBlank c = false) : strip t = t := by
  have hstart : stripStart t = t := by
    cases t with
    | nil => rfl
    | cons c cs => exact List.dropWhile_cons_of_neg (by simp [hfirst c rfl])
  unfold strip
  rw [hstart]
  rcases List.eq_nil_or_concat' t with rfl | ⟨init, c, rfl⟩
  · rfl
  · exact trimEnd_append_cons (hlast c (by simp)) init []

theorem strip_strip (t : Text) : strip (strip t) = strip t :=
  strip_eq_self eq_false_of_head?_strip eq_false_of_getLast?_strip

/-! ### Occurrences of a pattern -/

section

variable {pattern t before after : Text}

theorem after?_eq_none_iff : after? pattern t = none ↔ ¬ pattern <+: t := by
  rw [Option.eq_none_iff_forall_ne_some]
  constructor
  · rintro h ⟨rest, rfl⟩
    exact h rest (after?_eq_some_iff.2 rfl)
  · intro h rest hrest
    exact h ⟨rest, (after?_eq_some_iff.1 hrest).symm⟩

theorem cut?_eq_none_iff : cut? pattern t = none ↔ ¬ pattern <:+: t := by
  induction t with
  | nil => cases pattern <;> simp [cut?]
  | cons c cs ih =>
      rw [List.infix_cons_iff, not_or, ← after?_eq_none_iff, ← ih, cut?]
      cases after? pattern (c :: cs) <;> simp

theorem cutLast?_eq_none_iff (hne : pattern ≠ []) : cutLast? pattern t = none ↔ ¬ pattern <:+: t := by
  induction t with
  | nil => simp [cutLast?, hne]
  | cons c cs ih =>
      rw [List.infix_cons_iff, not_or, ← after?_eq_none_iff, ← ih, cutLast?]
      cases cutLast? pattern cs <;> simp

/-- The last occurrence of a pattern is one behind whose beginning there is no other. -/
theorem cutLast?_eq_some_iff (hne : pattern ≠ []) :
    cutLast? pattern t = some (before, after) ↔
      t = before ++ (pattern ++ after) ∧ ¬ pattern <:+: (pattern ++ after).tail := by
  induction t generalizing before with
  | nil => simp [cutLast?, hne]
  | cons c cs ih =>
      cases before with
      | nil =>
          have hfirst : cutLast? pattern (c :: cs) = some ([], after) ↔
              cutLast? pattern cs = none ∧ after? pattern (c :: cs) = some after := by
            rw [cutLast?]
            cases cutLast? pattern cs <;> simp
          rw [hfirst, cutLast?_eq_none_iff hne, after?_eq_some_iff, List.nil_append, and_comm]
          refine and_congr_right fun h => ?_
          rw [← h, List.tail_cons]
      | cons d ds =>
          have hlater : cutLast? pattern (c :: cs) = some (d :: ds, after) ↔
              c = d ∧ cutLast? pattern cs = some (ds, after) := by
            rw [cutLast?]
            cases cutLast? pattern cs <;> simp [and_assoc, Prod.ext_iff]
          rw [hlater, ih, List.cons_append, List.cons.injEq, and_assoc]

end

end Literate.Text
