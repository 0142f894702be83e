import Mathlib
import Literate.Highlight

/-! # Highlighting loses nothing

The texts of the tokens of a document, put together, are the document as it was prepared, and none of the
tokens is an error (`highlight_loses_nothing`).

Three things about the rules are checked one by one: a rule that shows groups has everything it takes in
groups, and a kind for each of them (`covers_of_mem`); no rule shows an error (`shows_of_mem`); and a rule
changes the mode only by entering a reference from the plain mode or by leaving one (`moves_of_mem`). At every
point some rule applies (`end_of_no_rule`), since the last rules of the plain mode take any character, and a
reference can always be left. What one step does follows (`Reader.exists_rule_of_step`), and from it what any
number of steps do (`Reader.Steps`). A reference may be left where nothing is taken, but entering one takes the
opening delimiter, so the two cannot go on for ever at one point (`Reader.step_decreases`). -/

namespace Literate.Highlight

/-! ### What a rule shows -/

/-- Whether a pattern never takes anything. -/
def Pattern.takesNothing : Pattern → Bool
  | nothing | lineStart => true
  | _ => false

theorem Pattern.of_read_of_takesNothing {α : Type} {p : Pattern} {k : Text → Option α} {here : Point}
    {x : α} (hp : p.takesNothing = true) (h : p.read k here = some x) : k [] = some x := by
  cases p with
  | nothing => exact h
  | lineStart =>
      rw [read] at h
      split at h
      · exact h
      · cases h
  | _ => cases hp

/-- Whether all that a rule takes is shown: the whole piece, or groups that leave nothing out and have a kind
each. -/
def Rule.covers (rule : Rule) : Bool :=
  match rule.display with
  | .nothing => rule.parts.isEmpty
  | .whole _ => true
  | .groups kinds =>
    (rule.parts.all fun part => part.isGroup || part.pattern.takesNothing) &&
      kinds.length == rule.parts.countP Part.isGroup

theorem flatten_groupTexts : ∀ {parts : List Part} {here : Point} {texts : List Text},
    (∀ part ∈ parts, part.isGroup = true ∨ part.pattern.takesNothing = true) →
    Pattern.readAll (parts.map Part.pattern) here = some texts →
    (groupTexts parts texts).flatten = texts.flatten ∧
      (groupTexts parts texts).length = parts.countP Part.isGroup
  | [], here, texts, _, h => by
      cases h
      exact ⟨rfl, rfl⟩
  | part :: parts, here, texts, hparts, h => by
      rw [List.forall_mem_cons] at hparts
      rw [List.map_cons, Pattern.readAll] at h
      obtain ⟨t, hshown, h⟩ : ∃ t, (part.isGroup = false → t = []) ∧
          (Pattern.readAll (parts.map Part.pattern) (here.after t)).map (t :: ·) = some texts := by
        rcases hparts.1 with hgroup | hnothing
        · obtain ⟨t, -, -, h⟩ := Pattern.of_read_eq_some h
          exact ⟨t, by simp [hgroup], h⟩
        · exact ⟨[], fun _ => rfl, Pattern.of_read_of_takesNothing hnothing h⟩
      obtain ⟨others, hothers, rfl⟩ := Option.map_eq_some_iff.1 h
      obtain ⟨hflatten, hlength⟩ := flatten_groupTexts hparts.2 hothers
      cases hgroup : part.isGroup with
      | true => simp [groupTexts, hgroup, hflatten, hlength]
      | false => simp [groupTexts, hgroup, hshown hgroup, hflatten, hlength]

theorem textOf_groups : ∀ {kinds : List TokenKind} {texts : List Text}, kinds.length = texts.length →
    textOf (((kinds.zip texts).filter fun part => !part.2.isEmpty).map
      fun part => ⟨part.1, part.2⟩) = texts.flatten
  | [], [], _ => rfl
  | kind :: kinds, t :: texts, h => by
      have ih := @textOf_groups kinds texts (Nat.succ.inj h)
      unfold textOf at ih ⊢
      cases t with
      | nil => simpa using ih
      | cons c cs => simpa using ih

/-- A rule that covers what it takes shows the piece that it matches. -/
theorem Rule.textOf_tokens {rule : Rule} {here : Point} {texts : List Text} (hcovers : rule.covers = true)
    (h : rule.match? here = some texts) : textOf (rule.tokens texts) = texts.flatten := by
  obtain ⟨parts, display, move⟩ := rule
  cases display with
  | nothing =>
      obtain rfl : parts = [] := List.isEmpty_iff.1 hcovers
      cases h
      rfl
  | whole kind => simp [tokens, textOf]
  | groups kinds =>
      simp only [covers, Bool.and_eq_true, List.all_eq_true, Bool.or_eq_true, beq_iff_eq] at hcovers
      obtain ⟨hflatten, hlength⟩ := flatten_groupTexts hcovers.1 h
      exact (textOf_groups (hcovers.2.trans hlength.symm)).trans hflatten

/-- The kinds of tokens that a rule shows. -/
def Display.kinds : Display → List TokenKind
  | nothing => []
  | whole kind => [kind]
  | groups kinds => kinds

theorem Rule.kind_mem_of_mem_tokens {rule : Rule} {texts : List Text} {token : Token}
    (h : token ∈ rule.tokens texts) : token.kind ∈ rule.display.kinds := by
  obtain ⟨parts, display, move⟩ := rule
  cases display with
  | nothing => cases h
  | whole kind =>
      obtain rfl := List.mem_singleton.1 h
      exact List.mem_singleton.2 rfl
  | groups kinds =>
      obtain ⟨part, hpart, rfl⟩ := List.mem_map.1 h
      exact (List.of_mem_zip (List.mem_filter.1 hpart).1).1

/-! ### The rules one by one -/

theorem covers_of_mem {mode : Mode} : ∀ rule ∈ rules mode, rule.covers = true := by
  cases mode <;> decide

theorem shows_of_mem {mode : Mode} : ∀ rule ∈ rules mode, .error ∉ rule.display.kinds := by
  cases mode <;> decide

theorem moves_of_mem {mode : Mode} : ∀ rule ∈ rules mode, rule.move = .stay ∨
    mode = .plain ∧ rule.move = .enter .insideReference ∨
      mode = .insideReference ∧ rule.move = .leave := by
  cases mode <;> decide

namespace Reader

variable {r next last : Reader} {found : List Token}

/-- A rule for one character applies to a character of its class. -/
theorem follow?_one {p : Char → Bool} {kind : TokenKind} {move : Move} {c : Char} {cs : Text}
    (hrest : r.here.rest = c :: cs) (hc : p c = true) :
    r.follow? (.plain (.one p) kind move) ≠ none := by
  simp [follow?, Rule.match?, Rule.plain, Pattern.readAll, Pattern.read, hrest, hc]

/-- Only at the end of the document, in the plain mode, there is no rule that applies. -/
theorem end_of_no_rule (h : (rules r.mode).findSome? r.follow? = none) :
    r.here.rest = [] ∧ r.mode = .plain := by
  rw [List.findSome?_eq_none_iff] at h
  cases hmode : r.mode with
  | insideReference =>
      rw [hmode] at h
      have hleave := h ⟨[], .nothing, .leave⟩ (by simp [rules])
      simp [follow?, Rule.match?, Pattern.readAll] at hleave
  | plain =>
      rw [hmode] at h
      refine ⟨?_, rfl⟩
      cases hrest : r.here.rest with
      | nil => rfl
      | cons c cs =>
          by_cases hc : c = '\n'
          · have hfeed := h (.plain (.char '\n') .text) (by simp [rules])
            exact absurd hfeed (follow?_one hrest (by simp [hc]))
          · have hany := h (.plain (.one isInLine) .text) (by simp [rules])
            exact absurd hany (follow?_one hrest (by simp [isInLine, hc]))

/-! ### One step -/

theorem exists_rule_of_step (h : r.step = some (found, next)) :
    ∃ rule ∈ rules r.mode, ∃ texts, rule.match? r.here = some texts ∧ found = rule.tokens texts ∧
      next = ⟨rule.move.apply r.entered, r.here.after texts.flatten⟩ := by
  rcases step_cases h with hrule | ⟨hnone, c, cs, _, _, hrest, -, -⟩
  · exact hrule
  · rw [(end_of_no_rule hnone).1] at hrest
    cases hrest

theorem end_of_step_eq_none (h : r.step = none) : r.here.rest = [] ∧ r.mode = .plain := by
  refine end_of_no_rule ?_
  unfold step at h
  split at h
  · cases h
  · assumption

theorem textOf_step (h : r.step = some (found, next)) :
    textOf found ++ next.here.rest = r.here.rest := by
  obtain ⟨rule, hrule, texts, htexts, rfl, rfl⟩ := exists_rule_of_step h
  obtain ⟨⟨behind, hbehind⟩, -⟩ := Pattern.of_readAll_eq_some htexts
  rw [Rule.textOf_tokens (covers_of_mem rule hrule) htexts, Point.rest_after, ← hbehind,
    List.drop_left]

theorem kind_ne_error_of_step (h : r.step = some (found, next)) :
    ∀ token ∈ found, token.kind ≠ .error := by
  obtain ⟨rule, hrule, texts, -, rfl, -⟩ := exists_rule_of_step h
  intro token htoken herror
  exact shows_of_mem rule hrule (herror ▸ Rule.kind_mem_of_mem_tokens htoken)

/-- The reader is in no reference, or in one. -/
def AtMostOne (r : Reader) : Prop := r.entered = [] ∨ r.entered = [.insideReference]

theorem AtMostOne.step (hone : r.AtMostOne) (h : r.step = some (found, next)) : next.AtMostOne := by
  obtain ⟨rule, hrule, texts, -, -, rfl⟩ := exists_rule_of_step h
  unfold AtMostOne
  rcases moves_of_mem rule hrule with hmove | ⟨hmode, hmove⟩ | ⟨-, hmove⟩
  · rw [hmove]
    exact hone
  · -- a reference is entered only from the plain mode, in which no other has been entered
    have hentered : r.entered = [] := by
      refine hone.resolve_right fun hinside => ?_
      rw [mode, hinside] at hmode
      cases hmode
    rw [hmove, hentered]
    exact .inr rfl
  · rw [hmove]
    rcases hone with hentered | hentered <;> rw [hentered] <;> exact .inl rfl

/-! ### Any number of steps -/

/-- `Steps r found last`: the reader comes from `r` to `last` and finds the tokens on the way. -/
inductive Steps : Reader → List Token → Reader → Prop
  | refl (r : Reader) : Steps r [] r
  | step {r next last : Reader} {found others : List Token} :
      r.step = some (found, next) → Steps next others last → Steps r (found ++ others) last

theorem Steps.textOf_append (h : Steps r found last) :
    textOf found ++ last.here.rest = r.here.rest := by
  induction h with
  | refl r => rfl
  | @step r next last found others hstep _ ih =>
      calc textOf (found ++ others) ++ last.here.rest
          = textOf found ++ (textOf others ++ last.here.rest) := by simp [textOf]
        _ = textOf found ++ next.here.rest := by rw [ih]
        _ = r.here.rest := textOf_step hstep

theorem Steps.kind_ne_error (h : Steps r found last) : ∀ token ∈ found, token.kind ≠ .error := by
  induction h with
  | refl => exact List.forall_mem_nil _
  | step hstep _ ih => exact List.forall_mem_append.2 ⟨kind_ne_error_of_step hstep, ih⟩

theorem Steps.atMostOne (h : Steps r found last) (hone : r.AtMostOne) : last.AtMostOne := by
  induction h with
  | refl => exact hone
  | step hstep _ ih => exact ih (hone.step hstep)

theorem run_of_step_eq_none (h : r.step = none) : r.run = [] := by
  rw [run]
  split
  · rfl
  · next hsome =>
      rw [h] at hsome
      cases hsome

theorem run_of_step_eq_some (h : r.step = some (found, next)) : r.run = found ++ next.run := by
  rw [run]
  split
  · next hnone =>
      rw [h] at hnone
      cases hnone
  · next hsome =>
      rw [h] at hsome
      cases hsome
      rfl

theorem exists_steps_run (r : Reader) : ∃ last, Steps r r.run last ∧ last.step = none := by
  induction r using run.induct with
  | case1 r hstep =>
      rw [run_of_step_eq_none hstep]
      exact ⟨r, .refl r, hstep⟩
  | case2 r found next hstep ih =>
      obtain ⟨last, hsteps, hlast⟩ := ih
      rw [run_of_step_eq_some hstep]
      exact ⟨last, .step hstep hsteps, hlast⟩

end Reader

/-- Highlighting loses no text, shows no error, and comes to an end outside of references, having never
been in more than one. -/
theorem highlight_loses_nothing (t : Text) :
    textOf (highlight t) = prepare t ∧
    (∀ token ∈ highlight t, token.kind ≠ .error) ∧
    (∃ last, Reader.Steps { here := { rest := prepare t } } (highlight t) last ∧
      last.step = none ∧ last.entered = []) ∧
    ∀ found r, Reader.Steps { here := { rest := prepare t } } found r →
      r.entered = [] ∨ r.entered = [.insideReference] := by
  have hone : Reader.AtMostOne { here := { rest := prepare t } } := .inl rfl
  obtain ⟨last, hsteps, hlast⟩ := Reader.exists_steps_run { here := { rest := prepare t } }
  obtain ⟨hrest, hmode⟩ := Reader.end_of_step_eq_none hlast
  refine ⟨?_, hsteps.kind_ne_error, ⟨last, hsteps, hlast, ?_⟩,
    fun _ _ hsteps => hsteps.atMostOne hone⟩
  · have htext := hsteps.textOf_append
    rwa [hrest, List.append_nil] at htext
  · refine (hsteps.atMostOne hone).resolve_right fun hinside => ?_
    rw [Reader.mode, hinside] at hmode
    cases hmode

end Literate.Highlight
