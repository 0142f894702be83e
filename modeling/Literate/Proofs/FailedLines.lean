import Mathlib
import Literate.Proofs.Regions

/-! # Lines that fail

A run that goes on after a fault tells for every member of a list what came of it (`Run.attempts`). When lines
are fed to a machine in this way, the lines behind one that fails are treated according to what it leaves.

At the conditions a line fails if it lacks its `if`, or if the condition that it asks for fails
(`Conditions.ends_step_error_iff`). Nothing but the context is changed then, and by the evaluation of that
condition only. So the later lines are treated as if the line were not there. At the extractor a line fails
if it closes a region whose code fails (`Extractor.ends_step_error_iff`). The region is closed then, and only
not counted; and the count decides about nothing (`Extractor.ends_attempts_counted`). -/

namespace Literate

/-! ### Going on after faults -/

namespace Run

variable {σ τ α β : Type} {f : α → Run σ β} {s s' t : σ} {r : Except Fault β}
  {rs others : List (Except Fault β)} {a : α} {l m : List α}

/-- Do an action for every member of a list, also when it fails for some: what it ends in for each. -/
def attempts (f : α → Run σ β) (l : List α) : Run σ (List (Except Fault β)) :=
  l.mapM fun a => (f a).attempt

/-- The same for two lists, where between them one part of the state becomes `t`. -/
def attemptsAround (f : α → Run (σ × τ) β) (before after : List α) (t : τ) :
    Run (σ × τ) (List (Except Fault β)) := do
  let first ← attempts f before
  (set t).onSecond
  let others ← attempts f after
  return first ++ others

theorem Ends.attempt {x : Run σ β} (h : x.Ends s r s') : x.attempt.Ends s (.ok r) s' :=
  ⟨congrArg Except.ok h.1, h.2⟩

theorem ends_attempts_nil : (attempts f []).Ends s (.ok []) s := ends_pure [] s

theorem Ends.attempts_cons (h : (f a).Ends s r t) (hl : (attempts f l).Ends t (.ok rs) s') :
    (attempts f (a :: l)).Ends s (.ok (r :: rs)) s' := by
  unfold attempts
  rw [List.mapM_cons]
  exact h.attempt.bind (hl.bind (ends_pure _ s'))

theorem Ends.attempts_append (hl : (attempts f l).Ends s (.ok rs) t)
    (hm : (attempts f m).Ends t (.ok others) s') :
    (attempts f (l ++ m)).Ends s (.ok (rs ++ others)) s' := by
  unfold attempts
  rw [List.mapM_append]
  exact hl.bind (hm.bind (ends_pure _ s'))

theorem exists_ends_attempts (f : α → Run σ β) : ∀ (l : List α) (s : σ),
    ∃ rs s', (attempts f l).Ends s (.ok rs) s'
  | [], s => ⟨[], s, ends_attempts_nil⟩
  | a :: l, s => by
      obtain ⟨rs, s', hl⟩ := exists_ends_attempts f l ((f a).run s).state
      exact ⟨_, s', ((f a).ends_self s).attempts_cons hl⟩

theorem Ends.attemptsAround {f : α → Run (σ × τ) β} {s s' : σ × τ} {now : σ} {c c' : τ}
    (hl : (attempts f l).Ends s (.ok rs) (now, c)) (hm : (attempts f m).Ends (now, c') (.ok others) s') :
    (attemptsAround f l m c').Ends s (.ok (rs ++ others)) s' := by
  have hset : ((set c').onSecond : Run (σ × τ) Unit).Ends (now, c) (.ok ()) (now, c') :=
    Ends.onSecond (s := now) (t := c) ⟨rfl, rfl⟩
  exact hl.bind (hset.bind (hm.bind (ends_pure _ s')))

/-- Where a step carries a state over to another one, so does a run that goes on after faults. -/
theorem Ends.attempts_map (view : σ → σ)
    (hstep : ∀ a s r s', (f a).Ends s r s' → (f a).Ends (view s) r (view s')) :
    ∀ {l : List α} {s s' : σ} {rs : List (Except Fault β)}, (attempts f l).Ends s (.ok rs) s' →
      (attempts f l).Ends (view s) (.ok rs) (view s')
  | [], s, s', rs, h => by
      obtain ⟨hrs, rfl⟩ := ends_attempts_nil.unique h
      cases hrs
      exact ends_attempts_nil
  | a :: l, s, s', rs, h => by
      have ha := (f a).ends_self s
      obtain ⟨others, t', hl⟩ := exists_ends_attempts f l ((f a).run s).state
      obtain ⟨hrs, rfl⟩ := (ha.attempts_cons hl).unique h
      cases hrs
      exact (hstep a _ _ _ ha).attempts_cons (attempts_map view hstep hl)

end Run

open Run

/-! ### Conditions -/

namespace Conditions

variable {ε : Type} {evaluate : Text → Run ε Bool} {line : Line} {now : Conditions} {c c' : ε}
  {fault : Fault}

/-- The condition that is evaluated at a line: that of an `if` always, that of an `elsif` only if its branch
may be taken. -/
def asks? (now : Conditions) (line : Line) : Option Text :=
  match line.mark with
  | .opening condition => some condition
  | .elsif condition => if now.stack.head?.any Frame.eligible then some condition else none
  | _ => none

/-- The line fails, and the evaluations made for it leave the context `c'`. -/
inductive Refuses (evaluate : Text → Run ε Bool) (now : Conditions) (line : Line) (c : ε) :
    Fault → ε → Prop where
  /-- There is no `if` for it. -/
  | unmatched {keyword : String} (inner : line.mark.inner? = some keyword) (outside : now.stack = []) :
      Refuses evaluate now line c (.ofProblem (.unmatched keyword.toList line.location)) c
  /-- Its condition fails. -/
  | asked {condition : Text} {fault : Fault} {c' : ε} (asked : now.asks? line = some condition)
      (ends : (evaluate condition).Ends c (.error fault) c') : Refuses evaluate now line c fault c'

theorem Refuses.ends (h : Refuses evaluate now line c fault c') :
    (step evaluate line).Ends (now, c) (.error fault) (now, c') := by
  obtain ⟨here, stack⟩ := now
  cases h with
  | unmatched inner outside =>
      cases outside
      exact (Step.unmatched inner).ends
  | @asked condition _ _ asked ends =>
      unfold asks? at asked
      split at asked
      · next mark =>
          cases asked
          exact (Step.openingFails mark ends).ends
      · next mark =>
          split at asked
          · next heligible =>
              cases asked
              cases stack with
              | nil => cases heligible
              | cons frame stack =>
                  obtain ⟨previous, eligible⟩ := frame
                  obtain rfl : eligible = true := heligible
                  exact (Step.elsifFails mark ends).ends
          · cases asked
      · cases asked

theorem ends_step_error_iff {s' : Conditions × ε} :
    (step evaluate line).Ends (now, c) (.error fault) s' ↔
      s'.1 = now ∧ Refuses evaluate now line c fault s'.2 := by
  constructor
  · intro h
    cases ends_step_iff.1 h with
    | openingFails mark ends => exact ⟨rfl, .asked (by simp [asks?, mark]) ends⟩
    | elsifFails mark ends => exact ⟨rfl, .asked (by simp [asks?, mark]) ends⟩
    | unmatched inner => exact ⟨rfl, .unmatched inner rfl⟩
  · obtain ⟨now', c'⟩ := s'
    rintro ⟨rfl, h⟩
    exact h.ends

end Conditions

/-! ### Extension code -/

namespace Extractor

variable {ε : Type} {execute : Text → Run ε Unit} {extensionLanguage : Text} {line : Line}
  {x x' : Extractor} {c c' : ε} {fault : Fault}

/-- A line that fails closes a region; only the count is not changed. -/
theorem ends_step_error_iff {s' : Extractor × ε} :
    (step execute extensionLanguage line).Ends (x, c) (.error fault) s' ↔
      s'.1 = { x with capture := none } ∧ ∃ captured, x.capture = some captured ∧
        closes line.text = true ∧ (execute captured.flatten).Ends c (.error fault) s'.2 := by
  obtain ⟨x', c'⟩ := s'
  constructor
  · intro h
    rcases of_ends_step h with ⟨stays, hstays, -⟩ | ⟨fault', captured, hfault, hcapture, hcloses, hexecute⟩
    · cases hstays
    · cases hfault
      obtain ⟨-, hstate⟩ := (ends_step_error hcapture hcloses hexecute).unique h
      exact ⟨(congrArg Prod.fst hstate).symm, captured, hcapture, hcloses, hexecute⟩
  · rintro ⟨rfl, captured, hcapture, hcloses, hexecute⟩
    exact ends_step_error hcapture hcloses hexecute

/-- The extractor with one more block counted. -/
def counted (x : Extractor) : Extractor := { x with executed := x.executed + 1 }

theorem advance_counted (extensionLanguage : Text) (x : Extractor) (line : Line) :
    advance extensionLanguage x.counted line =
      { advance extensionLanguage x line with
        last := (advance extensionLanguage x line).last.counted } := by
  obtain ⟨capture, opened, executed⟩ := x
  unfold advance counted
  cases capture with
  | none => dsimp only; split <;> rfl
  | some captured => dsimp only; split <;> rfl

theorem ends_step_counted {r : Except Fault Bool}
    (h : (step execute extensionLanguage line).Ends (x, c) r (x', c')) :
    (step execute extensionLanguage line).Ends (x.counted, c) r (x'.counted, c') := by
  rcases of_ends_step h with
    ⟨stays, rfl, rfl, hkept, hcodes⟩ | ⟨fault, captured, rfl, hcapture, hcloses, hexecute⟩
  · have hcounted := advance_counted extensionLanguage x line
    have hcodes' : (forM (advance extensionLanguage x.counted line).codes execute).Ends c (.ok ()) c' := by
      rw [hcounted]
      exact hcodes
    obtain ⟨stays', hstep, hkept'⟩ := ends_step hcodes'
    rw [hcounted] at hstep hkept'
    have hsame : stays' = stays := by
      have h' := hkept'.trans hkept.symm
      cases stays <;> cases stays' <;> simp at h' ⊢
    rwa [hsame] at hstep
  · obtain ⟨-, hstate⟩ := (ends_step_error hcapture hcloses hexecute).unique h
    cases hstate
    exact ends_step_error hcapture hcloses hexecute

theorem ends_attempts_counted {lines : List Line} {rs : List (Except Fault Bool)}
    (h : (attempts (step execute extensionLanguage) lines).Ends (x, c) (.ok rs) (x', c')) :
    (attempts (step execute extensionLanguage) lines).Ends (x.counted, c) (.ok rs) (x'.counted, c') :=
  Ends.attempts_map (fun s : Extractor × ε => (s.1.counted, s.2))
    (fun _ _ _ _ hstep => ends_step_counted hstep) h

end Extractor

/-! ### The lines behind one that fails -/

/-- **Lines that fail.** At the conditions a line fails exactly if it lacks its `if` or the condition that it
asks for fails, and leaves them as they are. All other lines are then treated, from whatever state on, as
without it, but for what the evaluation of its condition does to the context.

At the extractor a line fails exactly if it closes a region whose code fails, and leaves the extractor outside
a region with the same count. All later lines are then treated as if the region had been closed; the count
alone is one less. -/
theorem failed_lines_leave_machines_consistent {ε : Type} (evaluate : Text → Run ε Bool)
    (execute : Text → Run ε Unit) (extensionLanguage : Text) :
    (∀ (line : Line) (now : Conditions) (c : ε) (fault : Fault) (s' : Conditions × ε),
      (Conditions.step evaluate line).Ends (now, c) (.error fault) s' ↔
        s'.1 = now ∧ Conditions.Refuses evaluate now line c fault s'.2) ∧
    (∀ (before after : List Line) (line : Line) (s t t' : Conditions × ε)
      (decided : List (Except Fault Bool)) (fault : Fault),
      (attempts (Conditions.step evaluate) before).Ends s (.ok decided) t →
      (Conditions.step evaluate line).Ends t (.error fault) t' →
      ∃ rest last,
        (attempts (Conditions.step evaluate) (before ++ line :: after)).Ends s
          (.ok (decided ++ .error fault :: rest)) last ∧
        (attemptsAround (Conditions.step evaluate) before after t'.2).Ends s
          (.ok (decided ++ rest)) last ∧
        (t'.2 = t.2 → (attempts (Conditions.step evaluate) (before ++ after)).Ends s
          (.ok (decided ++ rest)) last)) ∧
    (∀ (line : Line) (x : Extractor) (c : ε) (fault : Fault) (s' : Extractor × ε),
      (Extractor.step execute extensionLanguage line).Ends (x, c) (.error fault) s' ↔
        s'.1 = { x with capture := none } ∧ ∃ captured, x.capture = some captured ∧
          Extractor.closes line.text = true ∧
          (execute captured.flatten).Ends c (.error fault) s'.2) ∧
    ∀ (before after : List Line) (line : Line) (s t t' : Extractor × ε)
      (passed : List (Except Fault Bool)) (fault : Fault),
      (attempts (Extractor.step execute extensionLanguage) before).Ends s (.ok passed) t →
      (Extractor.step execute extensionLanguage line).Ends t (.error fault) t' →
      ∃ rest last,
        (attempts (Extractor.step execute extensionLanguage) (before ++ line :: after)).Ends s
          (.ok (passed ++ .error fault :: rest)) last ∧
        (attempts (Extractor.step execute extensionLanguage) after).Ends
          ((Extractor.advance extensionLanguage t.1 line).last, t'.2) (.ok rest)
          (last.1.counted, last.2) := by
  refine ⟨fun line now c fault s' => Conditions.ends_step_error_iff, ?_,
    fun line x c fault s' => Extractor.ends_step_error_iff, ?_⟩
  · intro before after line s t t' decided fault hbefore hline
    obtain ⟨now, c⟩ := t
    obtain ⟨now', c'⟩ := t'
    obtain ⟨rfl, -⟩ := Conditions.ends_step_error_iff.1 hline
    obtain ⟨rest, last, hafter⟩ := exists_ends_attempts (Conditions.step evaluate) after (now', c')
    refine ⟨rest, last, hbefore.attempts_append (hline.attempts_cons hafter),
      hbefore.attemptsAround hafter, ?_⟩
    rintro rfl
    exact hbefore.attempts_append hafter
  · intro before after line s t t' passed fault hbefore hline
    obtain ⟨x, c⟩ := t
    obtain ⟨x', c'⟩ := t'
    obtain ⟨rfl, captured, hcapture, hcloses, -⟩ := Extractor.ends_step_error_iff.1 hline
    obtain ⟨rest, ⟨y, d⟩, hafter⟩ := exists_ends_attempts (Extractor.step execute extensionLanguage)
      after ({ x with capture := none }, c')
    refine ⟨rest, (y, d), hbefore.attempts_append (hline.attempts_cons hafter), ?_⟩
    rw [Extractor.advance_closing hcapture hcloses]
    exact Extractor.ends_attempts_counted hafter

/-- An `if` inside another one, whose condition fails after it has changed the context; an `end` without `if`;
and a region whose code fails after it has changed the context. -/
theorem failed_lines_leave_machines_consistent_inside :
    let evaluate : Text → Run Nat Bool := fun condition => do
      modify (· + 1)
      if condition = ['x'] then failure .nullInPath else return true
    let execute : Text → Run Nat Unit := fun _ => do
      modify (· + 1)
      failure .nullInPath
    let judge := attempts (Conditions.step evaluate)
    let extract := attempts (Extractor.step execute ['c'])
    let fault : Fault := .ofFailure .nullInPath
    let opening : Line := { text := "! if y\n".toList }
    let failing : Line := { text := "! if x\n".toList }
    let ending : Line := { text := "! end\n".toList }
    let unmatched : Fault := .ofProblem (.unmatched "end".toList ending.location)
    let fence : Line := { text := "``` c !\n".toList }
    let closing : Line := { text := "```\n".toList }
    let plain : Line := { text := "a\n".toList }
    let inside : Conditions := ⟨true, [⟨true, false⟩]⟩
    let within : Extractor := { capture := some [], opened := some fence }
    ((judge [opening]).Ends ({}, 0) (.ok [.ok false]) (inside, 1) ∧
      (Conditions.step evaluate failing).Ends (inside, 1) (.error fault) (inside, 2) ∧
      ∃ rest last, (judge [opening, failing, ending, plain]).Ends ({}, 0)
          (.ok (.ok false :: .error fault :: rest)) last ∧
        (attemptsAround (Conditions.step evaluate) [opening] [ending, plain] 2).Ends ({}, 0)
          (.ok (.ok false :: rest)) last) ∧
    (∃ rest last, (judge [ending, plain]).Ends ({}, 0) (.ok (.error unmatched :: rest)) last ∧
      (judge [plain]).Ends ({}, 0) (.ok rest) last) ∧
    (extract [fence]).Ends ({}, 0) (.ok [.ok false]) (within, 0) ∧
      (Extractor.step execute ['c'] closing).Ends (within, 0) (.error fault)
        ({ within with capture := none }, 1) ∧
      ∃ rest last, (extract [fence, closing, plain]).Ends ({}, 0)
          (.ok (.ok false :: .error fault :: rest)) last ∧
        (extract [plain]).Ends ({ capture := none, opened := some fence, executed := 1 }, 1) (.ok rest)
          (last.1.counted, last.2) := by
  intro evaluate execute judge extract fault opening failing ending unmatched fence closing
    plain inside within
  have hopening : (judge [opening]).Ends ({}, 0) (.ok [.ok false]) (inside, 1) := ⟨rfl, rfl⟩
  have hfence : (extract [fence]).Ends ({}, 0) (.ok [.ok false]) (within, 0) := ⟨rfl, rfl⟩
  obtain ⟨hconditions, hdecided, hextractor, hpassed⟩ :=
    failed_lines_leave_machines_consistent evaluate execute ['c']
  have hasks : inside.asks? failing = some ['x'] := rfl
  have hfailing : (Conditions.step evaluate failing).Ends (inside, 1) (.error fault) (inside, 2) :=
    (hconditions _ _ _ _ _).2 ⟨rfl, .asked hasks ⟨rfl, rfl⟩⟩
  have hclosing : (Extractor.step execute ['c'] closing).Ends (within, 0) (.error fault)
      ({ within with capture := none }, 1) :=
    (hextractor _ _ _ _ _).2 ⟨rfl, [], rfl, rfl, rfl, rfl⟩
  obtain ⟨rest, last, hall, haround, -⟩ :=
    hdecided [opening] [ending, plain] failing _ _ _ _ _ hopening hfailing
  have hending : (Conditions.step evaluate ending).Ends ({}, 0) (.error unmatched) ({}, 0) :=
    (hconditions _ _ _ _ _).2 ⟨rfl, .unmatched (rfl : ending.mark.inner? = some "end") rfl⟩
  obtain ⟨rest', last', hall', -, habsent⟩ :=
    hdecided [] [plain] ending _ _ _ _ _ ends_attempts_nil hending
  refine ⟨⟨hopening, hfailing, rest, last, hall, haround⟩, ⟨rest', last', hall', habsent rfl⟩, hfence,
    hclosing, ?_⟩
  exact hpassed [fence] [plain] closing _ _ _ _ _ hfence hclosing

end Literate
