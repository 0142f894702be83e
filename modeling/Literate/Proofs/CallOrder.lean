import Mathlib
import Literate.Proofs.Regions

/-! # The order of calls

Conditions and extension code are run on one context, and what code leaves there may decide a later
condition. So it matters which calls are made, and in which order. A `Call` is one of them with what came of
it; `Evaluator.Performs` says that calls follow each other from one context to another, and
`Evaluator.recorded` writes them down as they are made.

The sieve gives every line its `Turn`. One turn is a step of the conditions and, if they keep the line, one
of the extractor (`Pass`), and the turns of a run form a `Trail`. From the trail the two machines can be told
apart again: with the answers that were given, the conditions by themselves keep the same lines
(`Trail.judged`), and the extractor goes along the kept lines as if there were no others
(`Trail.completed_seen`, `Trail.extract_seen`). A run that fails leaves the trail of the lines before the one
that stops it (`exists_trail`). -/

namespace Literate

/-! ### Calls -/

namespace Run

variable {ε α κ : Type}

/-- The run, which also writes down the call that it is. -/
def noted (call : Except Fault α → κ) (x : Run ε α) : Run (ε × List κ) α := fun s =>
  let out := x.run s.1
  ⟨out.result, (out.state, s.2 ++ [call out.result]), out.log⟩

theorem ends_noted {call : Except Fault α → κ} {x : Run ε α} {s s' : ε × List κ} {r : Except Fault α} :
    (x.noted call).Ends s r s' ↔ x.Ends s.1 r s'.1 ∧ s'.2 = s.2 ++ [call r] := by
  constructor
  · rintro ⟨rfl, rfl⟩
    exact ⟨⟨rfl, rfl⟩, rfl⟩
  · obtain ⟨c', record'⟩ := s'
    rintro ⟨⟨rfl, rfl⟩, rfl⟩
    exact ⟨rfl, rfl⟩

end Run

/-- A call of an evaluator and what came of it. -/
inductive Call where
  | asked (condition : Text) (answer : Except Fault Bool)
  | ran (code : Text) (outcome : Except Fault Unit)

namespace Call

/-- A condition that got an answer. -/
def answered (q : Text × Bool) : Call := .asked q.1 (.ok q.2)

/-- Code that ran to its end. -/
def finished (code : Text) : Call := .ran code (.ok ())

/-- The condition and its answer. -/
def answer? : Call → Option (Text × Bool)
  | asked condition (.ok answer) => some (condition, answer)
  | _ => none

theorem filterMap_answer?_answered (asked : Option (Text × Bool)) :
    (asked.map answered).toList.filterMap answer? = asked.toList := by
  cases asked <;> rfl

theorem filterMap_answer?_finished (code? : Option Text) :
    (code?.map finished).toList.filterMap answer? = [] := by
  cases code? <;> rfl

end Call

namespace Evaluator

variable {ε : Type} {evaluator : Evaluator ε} {c c' c'' : ε} {calls more : List Call}

/-- Made one after the other, the calls come to what they say. -/
inductive Performs (evaluator : Evaluator ε) : ε → List Call → ε → Prop where
  | nil (c : ε) : Performs evaluator c [] c
  | asked {c c₁ c₂ : ε} {condition : Text} {answer : Except Fault Bool} {calls : List Call}
      (ends : (evaluator.evaluate condition).Ends c answer c₁) (rest : Performs evaluator c₁ calls c₂) :
      Performs evaluator c (.asked condition answer :: calls) c₂
  | ran {c c₁ c₂ : ε} {code : Text} {outcome : Except Fault Unit} {calls : List Call}
      (ends : (evaluator.execute code).Ends c outcome c₁) (rest : Performs evaluator c₁ calls c₂) :
      Performs evaluator c (.ran code outcome :: calls) c₂

theorem Performs.append (h : Performs evaluator c calls c') (hmore : Performs evaluator c' more c'') :
    Performs evaluator c (calls ++ more) c'' := by
  induction h with
  | nil c => exact hmore
  | asked ends _ ih => exact .asked ends (ih hmore)
  | ran ends _ ih => exact .ran ends (ih hmore)

theorem performs_answered {asked : Option (Text × Bool)}
    (h : Evaluates evaluator.evaluate c asked.toList c') :
    Performs evaluator c (asked.map Call.answered).toList c' := by
  cases asked with
  | none =>
      cases h
      exact .nil c
  | some q =>
      obtain ⟨condition, answer⟩ := q
      cases h with
      | cons ends rest =>
          cases rest
          exact .asked ends (.nil _)

theorem performs_finished {code? : Option Text}
    (h : (forM code?.toList evaluator.execute).Ends c (.ok ()) c') :
    Performs evaluator c (code?.map Call.finished).toList c' := by
  cases code? with
  | none =>
      obtain ⟨-, rfl⟩ := Run.ends_pure_iff.1 h
      exact .nil c'
  | some code =>
      obtain ⟨u, d, hexecute, hpure⟩ := Run.ends_bind_ok.1 h
      obtain ⟨-, rfl⟩ := Run.ends_pure_iff.1 hpure
      exact .ran hexecute (.nil c')

/-- The evaluator with a record of its calls. -/
def recorded (evaluator : Evaluator ε) : Evaluator (ε × List Call) where
  evaluate condition := (evaluator.evaluate condition).noted (.asked condition)
  execute code := (evaluator.execute code).noted (.ran code)

/-- The record grows by the calls that are made, and they are those of the evaluator itself. -/
theorem Performs.of_recorded {s s' : ε × List Call} (h : Performs evaluator.recorded s calls s') :
    Performs evaluator s.1 calls s'.1 ∧ s'.2 = s.2 ++ calls := by
  induction h with
  | nil s => exact ⟨.nil s.1, by simp⟩
  | asked ends rest ih =>
      obtain ⟨hfirst, hrecord⟩ := Run.ends_noted.1 ends
      exact ⟨.asked hfirst ih.1, by rw [ih.2, hrecord]; simp⟩
  | ran ends rest ih =>
      obtain ⟨hfirst, hrecord⟩ := Run.ends_noted.1 ends
      exact ⟨.ran hfirst ih.1, by rw [ih.2, hrecord]; simp⟩

end Evaluator

/-! ### What the conditions do at a line -/

/-- The condition that a line asks for. -/
def Line.condition? (line : Line) : Option Text :=
  match line.mark with
  | .opening condition => some condition
  | .elsif condition => some condition
  | _ => none

theorem Line.condition?_of_opening {line : Line} {condition : Text} (h : line.mark = .opening condition) :
    line.condition? = some condition := by
  rw [condition?, h]

theorem Line.condition?_of_elsif {line : Line} {condition : Text} (h : line.mark = .elsif condition) :
    line.condition? = some condition := by
  rw [condition?, h]

namespace Conditions

/-- The conditions take in a line, and `asked` is what they have to know for it. -/
structure Verdict (now : Conditions) (line : Line) (asked : Option (Text × Bool)) (flag : Bool)
    (now' : Conditions) : Prop where
  own : ∀ q, asked = some q → line.condition? = some q.1
  kept : flag = true → asked = none ∧ line.mark = .ordinary ∧ now.enabled = true
  ends : ∀ {τ : Type} {evaluate : Text → Run τ Bool} {t t' : τ}, Evaluates evaluate t asked.toList t' →
    (step evaluate line).Ends (now, t) (.ok flag) (now', t')

variable {ε : Type} {evaluate : Text → Run ε Bool} {line : Line} {now now' : Conditions} {c c' : ε}

theorem verdict_unasked {flag : Bool} (hkept : flag = true → line.mark = .ordinary ∧ now.enabled = true)
    (h : ∀ {τ : Type} {evaluate : Text → Run τ Bool} {t : τ},
      Step evaluate line (now, t) (.ok flag) (now', t)) :
    Verdict now line none flag now' where
  own := by simp
  kept hflag := ⟨rfl, hkept hflag⟩
  ends hevaluates := by
    cases hevaluates
    exact h.ends

theorem verdict_asked {condition : Text} {answer : Bool} (hline : line.condition? = some condition)
    (h : ∀ {τ : Type} {evaluate : Text → Run τ Bool} {t t' : τ},
      (evaluate condition).Ends t (.ok answer) t' → Step evaluate line (now, t) (.ok false) (now', t')) :
    Verdict now line (some (condition, answer)) false now' where
  own := by simp [hline]
  kept := by simp
  ends hevaluates := by
    cases hevaluates with
    | cons ends rest =>
        cases rest
        exact (h ends).ends

/-- All that a line can do: it gets its verdict, or its condition fails, or it lacks its `if`. -/
theorem of_ends_step {r : Except Fault Bool} (h : (step evaluate line).Ends (now, c) r (now', c')) :
    (∃ flag asked, r = .ok flag ∧ Verdict now line asked flag now' ∧
      Evaluates evaluate c asked.toList c') ∨
    ∃ fault, r = .error fault ∧
      ((∃ condition, line.condition? = some condition ∧
        (evaluate condition).Ends c (.error fault) c') ∨
      ∃ keyword : String, line.mark.inner? = some keyword ∧ now.stack = [] ∧
        fault = .ofProblem (.unmatched keyword.toList line.location) ∧ c' = c) := by
  cases ends_step_iff.1 h with
  | ordinary mark =>
      exact .inl ⟨_, none, rfl, verdict_unasked (fun hflag => ⟨mark, hflag⟩) (.ordinary mark), .nil c⟩
  | @opening condition _ answer _ _ _ mark ends =>
      exact .inl ⟨_, some (condition, answer), rfl,
        verdict_asked (Line.condition?_of_opening mark) (.opening mark), .cons ends (.nil c')⟩
  | @openingFails condition _ _ _ _ mark ends =>
      exact .inr ⟨_, rfl, .inl ⟨condition, Line.condition?_of_opening mark, ends⟩⟩
  | @elsif condition _ _ answer _ _ _ mark ends =>
      exact .inl ⟨_, some (condition, answer), rfl,
        verdict_asked (Line.condition?_of_elsif mark) (.elsif mark), .cons ends (.nil c')⟩
  | @elsifFails condition _ _ _ _ _ _ mark ends =>
      exact .inr ⟨_, rfl, .inl ⟨condition, Line.condition?_of_elsif mark, ends⟩⟩
  | passed mark => exact .inl ⟨_, none, rfl, verdict_unasked (by simp) (.passed mark), .nil c⟩
  | otherwise mark => exact .inl ⟨_, none, rfl, verdict_unasked (by simp) (.otherwise mark), .nil c⟩
  | closing mark => exact .inl ⟨_, none, rfl, verdict_unasked (by simp) (.closing mark), .nil c⟩
  | @unmatched keyword _ _ mark => exact .inr ⟨_, rfl, .inr ⟨keyword, mark, rfl, rfl, rfl⟩⟩

end Conditions

/-! ### What the sieve does at a line -/

namespace Sieve

open Extractor

/-- What happened at a line: whether the conditions kept it, and the call that was made. -/
structure Turn where
  line : Line
  kept : Bool
  call? : Option Call

/-- The calls, in the order of the lines. -/
def calls (turns : List Turn) : List Call := turns.filterMap Turn.call?

/-- The lines that the extractor sees. -/
def seen (turns : List Turn) : List Line := (turns.filter Turn.kept).map Turn.line

/-- One turn of the sieve. -/
inductive Pass (extensionLanguage : Text) (now : Conditions) (x : Extractor) :
    Turn → Conditions → Extractor → Prop where
  | dropped {line : Line} {asked : Option (Text × Bool)} {now' : Conditions}
      (verdict : now.Verdict line asked false now') :
      Pass extensionLanguage now x ⟨line, false, asked.map Call.answered⟩ now' x
  | taken {line : Line} {now' : Conditions} (verdict : now.Verdict line none true now') :
      Pass extensionLanguage now x
        ⟨line, true, (advance extensionLanguage x line).codes.head?.map Call.finished⟩ now'
        (advance extensionLanguage x line).last

/-- What stops the sieve at a line: its condition fails, the code that it completes fails, or it lacks its
`if`. Here `call?` is the call that failed. -/
inductive Stop (now : Conditions) (x : Extractor) (line : Line) : Option Call → Fault → Prop where
  | ask {condition : Text} {fault : Fault} (own : line.condition? = some condition) :
      Stop now x line (some (.asked condition (.error fault))) fault
  | run {captured : List Text} {fault : Fault} (ordinary : line.mark = .ordinary)
      (enabled : now.enabled = true) (inside : x.capture = some captured)
      (closed : closes line.text = true) :
      Stop now x line (some (.ran captured.flatten (.error fault))) fault
  | unmatched {keyword : String} (inner : line.mark.inner? = some keyword) (outside : now.stack = []) :
      Stop now x line none (.ofProblem (.unmatched keyword.toList line.location))

section step

variable {ε : Type} {evaluator : Evaluator ε} {extensionLanguage : Text} {line : Line}
  {now : Conditions} {x : Extractor} {c : ε} {s' : Sieve ε}

theorem of_ends_step {r : Except Fault Bool}
    (h : (step evaluator extensionLanguage line).Ends ⟨now, x, c⟩ r s') :
    (∃ stays turn, r = .ok stays ∧ turn.line = line ∧
      Pass extensionLanguage now x turn s'.conditions s'.extractor ∧
      (if stays then [line] else []) = (extract extensionLanguage x (seen [turn])).kept ∧
      evaluator.Performs c turn.call?.toList s'.context) ∨
    ∃ fault call?, r = .error fault ∧ Stop now x line call? fault ∧
      evaluator.Performs c call?.toList s'.context := by
  obtain ⟨verdict?, ⟨now', c₁⟩, hcondition⟩ :
      ∃ r₁ s₁, (Conditions.step evaluator.evaluate line).Ends (now, c) r₁ s₁ :=
    ⟨_, _, Run.ends_self _ _⟩
  have hfirst := hcondition.zoom (fun s : Sieve ε => (s.conditions, s.context))
    (fun p s => { s with conditions := p.1, context := p.2 }) ⟨now, x, c⟩
  rcases Conditions.of_ends_step hcondition with
    ⟨flag, asked, rfl, verdict, hasked⟩ | ⟨fault, rfl, hfails⟩
  · cases flag with
    | false =>
        have hstep : (step evaluator extensionLanguage line).Ends ⟨now, x, c⟩ (.ok false)
            ⟨now', x, c₁⟩ := hfirst.bind (Run.ends_pure false _)
        obtain ⟨rfl, rfl⟩ := hstep.unique h
        exact .inl ⟨false, _, rfl, rfl, .dropped verdict, rfl, Evaluator.performs_answered hasked⟩
    | true =>
        obtain ⟨rfl, ordinary, enabled⟩ := verdict.kept rfl
        cases hasked
        obtain ⟨stays?, ⟨x', c'⟩, hextractor⟩ :
            ∃ r₁ s₁, (Extractor.step evaluator.execute extensionLanguage line).Ends (x, c) r₁ s₁ :=
          ⟨_, _, Run.ends_self _ _⟩
        have hsecond := hextractor.zoom (fun s : Sieve ε => (s.extractor, s.context))
          (fun p s => { s with extractor := p.1, context := p.2 }) ⟨now', x, c⟩
        obtain ⟨rfl, rfl⟩ := (hfirst.bind hsecond).unique h
        rcases Extractor.of_ends_step hextractor with
          ⟨stays, rfl, rfl, hkept, hcodes⟩ | ⟨fault, captured, rfl, inside, closed, hexecute⟩
        · rw [← toList_head?_codes] at hcodes
          refine .inl ⟨stays, _, rfl, rfl, .taken verdict, ?_, Evaluator.performs_finished hcodes⟩
          simp [hkept, seen, extract]
        · exact .inr ⟨fault, _, rfl, .run ordinary enabled inside closed, .ran hexecute (.nil c')⟩
  · obtain ⟨rfl, rfl⟩ := hfirst.bind_error.unique h
    rcases hfails with ⟨condition, hline, hevaluate⟩ | ⟨keyword, inner, outside, rfl, rfl⟩
    · exact .inr ⟨fault, _, rfl, .ask hline, .asked hevaluate (.nil c₁)⟩
    · exact .inr ⟨_, none, rfl, .unmatched inner outside, .nil c₁⟩

end step

/-! ### What it does at all lines -/

/-- The turns of a run. -/
inductive Trail (extensionLanguage : Text) : Conditions → Extractor → List Turn → Conditions →
    Extractor → Prop where
  | nil (now : Conditions) (x : Extractor) : Trail extensionLanguage now x [] now x
  | cons {now now₁ now' : Conditions} {x x₁ x' : Extractor} {turn : Turn} {turns : List Turn}
      (first : Pass extensionLanguage now x turn now₁ x₁)
      (rest : Trail extensionLanguage now₁ x₁ turns now' x') :
      Trail extensionLanguage now x (turn :: turns) now' x'

/-- By themselves, with the answers that were given, the conditions keep the lines that were kept; and a
line that was dropped has asked for its own condition at most. -/
structure Judged (now : Conditions) (turns : List Turn) (now' : Conditions) : Prop where
  own : ∀ turn ∈ turns, turn.kept = false → ∀ call, turn.call? = some call →
    ∃ q, turn.line.condition? = some q.1 ∧ call = .answered q
  ends : ∀ {τ : Type} {evaluate : Text → Run τ Bool} {t t' : τ},
    Evaluates evaluate t ((calls turns).filterMap Call.answer?) t' →
    (Conditions.feed evaluate (turns.map Turn.line)).Ends (now, t) (.ok (turns.map Turn.kept)) (now', t')

section run

variable {ε : Type} {evaluator : Evaluator ε} {extensionLanguage : Text} {now now' : Conditions}
  {x x' : Extractor} {turn : Turn} {turns : List Turn}

theorem calls_cons : calls (turn :: turns) = turn.call?.toList ++ calls turns := by
  unfold calls
  rw [List.filterMap_cons]
  cases turn.call? <;> rfl

theorem Pass.extract_seen (h : Pass extensionLanguage now x turn now' x') (turns : List Turn) :
    (extract extensionLanguage x (seen (turn :: turns))).kept =
      (extract extensionLanguage x (seen [turn])).kept ++
        (extract extensionLanguage x' (seen turns)).kept ∧
    (extract extensionLanguage x (seen (turn :: turns))).last =
      (extract extensionLanguage x' (seen turns)).last := by
  cases h with
  | dropped verdict => exact ⟨rfl, rfl⟩
  | taken verdict => simp [seen, extract]

/-- At a turn the conditions do what they do without the extractor. -/
theorem Pass.ends (h : Pass extensionLanguage now x turn now' x') {τ : Type}
    {evaluate : Text → Run τ Bool} {t t' : τ}
    (hasked : Evaluates evaluate t (turn.call?.toList.filterMap Call.answer?) t') :
    (Conditions.step evaluate turn.line).Ends (now, t) (.ok turn.kept) (now', t') := by
  cases h with
  | dropped verdict =>
      rw [Call.filterMap_answer?_answered] at hasked
      exact verdict.ends hasked
  | taken verdict =>
      rw [Call.filterMap_answer?_finished] at hasked
      exact verdict.ends hasked

theorem Pass.own (h : Pass extensionLanguage now x turn now' x') (hdropped : turn.kept = false)
    {call : Call} (hcall : turn.call? = some call) :
    ∃ q, turn.line.condition? = some q.1 ∧ call = .answered q := by
  cases h with
  | dropped verdict =>
      obtain ⟨q, hq, rfl⟩ := Option.map_eq_some_iff.1 hcall
      exact ⟨q, verdict.own q hq, rfl⟩
  | taken verdict => cases hdropped

namespace Trail

theorem judged (h : Trail extensionLanguage now x turns now' x') : Judged now turns now' := by
  induction h with
  | nil now x =>
      refine ⟨by simp, fun hasked => ?_⟩
      cases hasked
      exact Conditions.ends_feed_nil
  | cons first rest ih =>
      constructor
      · intro turn hturn hdropped call hcall
        rcases List.mem_cons.1 hturn with rfl | hturn
        · exact first.own hdropped hcall
        · exact ih.own turn hturn hdropped call hcall
      · intro τ evaluate t t' hasked
        rw [calls_cons, List.filterMap_append] at hasked
        obtain ⟨t₁, hfirst, hrest⟩ := hasked.of_append
        exact (Conditions.ends_step_iff.1 (first.ends hfirst)).ends_feed (ih.ends hrest)

/-- The calls at the lines that the extractor sees run what is complete with them. -/
theorem completed_seen (h : Trail extensionLanguage now x turns now' x') :
    (turns.filter Turn.kept).map Turn.call? =
      (completed extensionLanguage x (seen turns)).map (Option.map Call.finished) := by
  induction h with
  | nil now x => rfl
  | cons first rest ih =>
      cases first with
      | dropped verdict => simpa [seen] using ih
      | taken verdict => simpa [seen, completed] using ih

theorem extract_seen (h : Trail extensionLanguage now x turns now' x') :
    (extract extensionLanguage x (seen turns)).last = x' := by
  induction h with
  | nil now x => rfl
  | @cons _ _ _ _ _ _ _ turns first rest ih => exact (first.extract_seen turns).2.trans ih

end Trail

/-- Every run leaves a trail: of all lines if it succeeds, and else of those before the line that stops
it. -/
theorem exists_trail {lines : List Line} {c : ε} {r : Except Fault (List Line)} {s' : Sieve ε}
    (h : (keep evaluator extensionLanguage lines).Ends ⟨now, x, c⟩ r s') :
    ∃ turns now' x', Trail extensionLanguage now x turns now' x' ∧
      ((r = .ok (extract extensionLanguage x (seen turns)).kept ∧ lines = turns.map Turn.line ∧
        evaluator.Performs c (calls turns) s'.context ∧ s'.conditions = now' ∧ s'.extractor = x') ∨
      ∃ line after call? fault, r = .error fault ∧ lines = turns.map Turn.line ++ line :: after ∧
        Stop now' x' line call? fault ∧
        evaluator.Performs c (calls turns ++ call?.toList) s'.context) := by
  induction lines generalizing now x c r s' with
  | nil =>
      obtain ⟨rfl, rfl⟩ := Run.ends_pure_iff.1 h
      exact ⟨[], now, x, .nil now x, .inl ⟨rfl, rfl, .nil c, rfl, rfl⟩⟩
  | cons line rest ih =>
      -- The first line gets its turn or stops the run; the other lines start from where it leaves off.
      obtain ⟨stays?, ⟨now₁, x₁, c₁⟩, hstep⟩ :
          ∃ r₁ s₁, (step evaluator extensionLanguage line).Ends ⟨now, x, c⟩ r₁ s₁ :=
        ⟨_, _, Run.ends_self _ _⟩
      rcases of_ends_step hstep with
        ⟨stays, turn, rfl, rfl, hpass, hkept, hcalls⟩ | ⟨fault, call?, rfl, hstop, hcalls⟩
      · obtain ⟨r₂, s₂, hrest⟩ :
            ∃ r₂ s₂, (keep evaluator extensionLanguage rest).Ends ⟨now₁, x₁, c₁⟩ r₂ s₂ :=
           ⟨_, _, Run.ends_self _ _⟩
        have hline : (do
            return if ← step evaluator extensionLanguage turn.line then [turn.line] else []).Ends
              ⟨now, x, c⟩ (.ok (if stays then [turn.line] else [])) ⟨now₁, x₁, c₁⟩ :=
          hstep.bind (Run.ends_pure _ _)
        obtain ⟨turns, now', x', htrail, hend⟩ := ih hrest
        refine ⟨turn :: turns, now', x', .cons hpass htrail, ?_⟩
        rw [calls_cons, List.map_cons, (hpass.extract_seen turns).1, ← hkept]
        rcases hend with ⟨rfl, rfl, hperforms, hnow, hx⟩ |
          ⟨line, after, call?, fault, rfl, rfl, hstop, hperforms⟩
        · have hkeep : (keep evaluator extensionLanguage (turn.line :: turns.map Turn.line)).Ends
              ⟨now, x, c⟩ (.ok ((if stays then [turn.line] else []) ++
                (extract extensionLanguage x₁ (seen turns)).kept)) s₂ :=
            hline.bind (hrest.bind (Run.ends_pure _ _))
          obtain ⟨rfl, rfl⟩ := hkeep.unique h
          exact .inl ⟨rfl, rfl, hcalls.append hperforms, hnow, hx⟩
        · obtain ⟨rfl, rfl⟩ := (hline.bind hrest.bind_error).unique h
          refine .inr ⟨line, after, call?, fault, rfl, rfl, hstop, ?_⟩
          rw [List.append_assoc]
          exact hcalls.append hperforms
      · obtain ⟨rfl, rfl⟩ := (Run.Ends.bind_error hstep.bind_error).unique h
        exact ⟨[], now, x, .nil now x, .inr ⟨line, rest, call?, fault, rfl, rfl, hstop, hcalls⟩⟩

end run

/-! ### What it does with a document -/

/-- How a pass ends, with `p` the parting of the lines that the extractor has seen, `now` the conditions
after the last turn, and the lines that had no turn. -/
inductive Ending {extensionLanguage : Text} (p : Parting extensionLanguage) (now : Conditions) :
    List Line → Option Call → Except Fault (List Line) → Prop where
  | done (closed : p.unclosed? = none) (balanced : now.stack = []) : Ending p now [] none (.ok p.passed)
  | unclosed {opening : Line} (inside : p.unclosed? = some opening) :
      Ending p now [] none (.error (.ofProblem (.missingExtensionFence opening.location)))
  | unbalanced (closed : p.unclosed? = none) (inside : now.stack ≠ []) :
      Ending p now [] none (.error (.ofProblem (.unbalanced now.stack.length)))
  | stopped {line : Line} {after : List Line} {call? : Option Call} {fault : Fault}
      (stop : Stop now (p.last {}) line call? fault) : Ending p now (line :: after) call? (.error fault)

section select

variable {ε : Type} {evaluator : Evaluator ε} {extensionLanguage : Text} {lines : List Line} {c : ε}

theorem ends_select_of_keep {r : Except Fault (List Line)} {s' : Sieve ε}
    (h : (keep evaluator extensionLanguage lines).Ends { context := c } r s') :
    (select evaluator extensionLanguage lines).Ends c (do
      let kept ← r
      s'.extractor.finish
      s'.conditions.checkBalance
      return kept) s'.context := by
  have hpass : (pass evaluator extensionLanguage lines).Ends { context := c } (do
      let kept ← r
      s'.extractor.finish
      s'.conditions.checkBalance
      return kept) s' := by
    cases r with
    | error fault => exact h.bind_error
    | ok kept =>
        refine h.bind (Run.ends_get_bind.2 ?_)
        have hfinish := Run.ends_ofExcept s'.extractor.finish s'
        have hbalance := Run.ends_ofExcept s'.conditions.checkBalance s'
        cases hf : s'.extractor.finish with
        | error fault =>
            rw [hf] at hfinish
            exact hfinish.bind_error
        | ok u =>
            rw [hf] at hfinish
            cases hb : s'.conditions.checkBalance with
            | error fault =>
                rw [hb] at hbalance
                exact hfinish.bind hbalance.bind_error
            | ok v =>
                rw [hb] at hbalance
                exact hfinish.bind (hbalance.bind (Run.ends_progress_bind.2 (Run.ends_pure kept s')))
  exact hpass.zoom (fun context : ε => { context }) (fun (s : Sieve ε) _ => s.context) c

theorem ending_finish (p : Parting extensionLanguage) (now : Conditions) :
    Ending p now [] none (do
      (p.last {}).finish
      now.checkBalance
      return p.passed) := by
  obtain ⟨hclosed, hopen⟩ := p.finish_last (x := {}) rfl
  cases hp : p.unclosed? with
  | some opening =>
      rw [hopen opening hp]
      exact .unclosed hp
  | none =>
      rw [hclosed hp]
      by_cases hstack : now.stack = []
      · rw [Conditions.checkBalance_eq_ok.2 hstack]
        exact .done hp hstack
      · have hbalance : now.checkBalance = .error (.ofProblem (.unbalanced now.stack.length)) := by
          simp [Conditions.checkBalance, hstack]
        rw [hbalance]
        exact .unbalanced hp hstack

theorem exists_ending (evaluator : Evaluator ε) (extensionLanguage : Text) (lines : List Line) (c : ε) :
    ∃ turns after call? now r c', ∃ p : Parting extensionLanguage,
      (select evaluator extensionLanguage lines).Ends c r c' ∧
      evaluator.Performs c (calls turns ++ call?.toList) c' ∧
      lines = turns.map Turn.line ++ after ∧ Judged {} turns now ∧ p.lines = seen turns ∧
      (turns.filter Turn.kept).map Turn.call? = p.runs.map (Option.map Call.finished) ∧
      Ending p now after call? r := by
  obtain ⟨r, s', hkeep⟩ : ∃ r s', (keep evaluator extensionLanguage lines).Ends { context := c } r s' :=
    ⟨_, _, Run.ends_self _ _⟩
  obtain ⟨turns, now, x, htrail, hend⟩ := exists_trail hkeep
  obtain ⟨p, hp⟩ := exists_parting extensionLanguage (seen turns)
  have hextract := p.extract_lines (x := {}) rfl
  have hruns := p.completed_lines (x := {}) rfl
  rw [hp] at hextract hruns
  have hcalls := htrail.completed_seen
  rw [hruns] at hcalls
  have hx : p.last {} = x := by rw [← htrail.extract_seen, hextract]
  have hselect := ends_select_of_keep hkeep
  rcases hend with ⟨rfl, hlines, hperforms, hnow, hlast⟩ |
    ⟨line, after, call?, fault, rfl, hlines, hstop, hperforms⟩
  · refine ⟨turns, [], none, now, _, _, p, hselect, by simpa using hperforms, by simpa using hlines,
      htrail.judged, hp, hcalls, ?_⟩
    rw [hextract, hnow, hlast, ← hx]
    exact ending_finish p now
  · rw [← hx] at hstop
    exact ⟨turns, line :: after, call?, now, _, _, p, hselect, hperforms, hlines, htrail.judged, hp, hcalls,
      .stopped hstop⟩

end select

end Sieve

/-- Code that always runs to its end is written down piece by piece. -/
theorem Extractor.exists_ends_noted {ε : Type} {execute : Text → Run ε Unit}
    (hexecute : ∀ code c, ∃ c', (execute code).Ends c (.ok ()) c') (codes : List Text) (c : ε)
    (record : List Text) :
    ∃ c', (forM codes fun code => (execute code).noted fun _ => code).Ends (c, record) (.ok ())
      (c', record ++ codes) := by
  induction codes generalizing c record with
  | nil => exact ⟨c, by simpa using Run.ends_pure () (c, record)⟩
  | cons code codes ih =>
      obtain ⟨c₁, hfirst⟩ := hexecute code c
      obtain ⟨c', hrest⟩ := ih c₁ (record ++ [code])
      rw [List.append_assoc] at hrest
      have hnoted : ((execute code).noted fun _ => code).Ends (c, record) (.ok ())
          (c₁, record ++ [code]) := Run.ends_noted.2 ⟨hfirst, rfl⟩
      exact ⟨c', hnoted.bind hrest⟩

open Extractor Sieve in
/-- Lines are parted in one way into those that pass and the regions of extension code. The extractor keeps
the ones and, if code always runs to its end, runs the code of each closed region once and in order; at the
end it fails exactly if the last region is open, and names the line that opens it.

In the sieve the extractor sees the lines that the conditions keep, which they would keep by themselves if
they got the same answers. At each line there is one call at most: at a line that is dropped, of its own
condition; at one that is kept, of the code that it completes. The calls are made in the order of the lines,
also if the pass fails, and it fails only by a call, an `if` or `end` that is missing, or a region that is
open at the end. -/
theorem Sieve.extension_code_runs_once (extensionLanguage : Text) (lines : List Line) :
    (∃ p : Parting extensionLanguage, p.lines = lines ∧
      (∀ q : Parting extensionLanguage, q.lines = lines → q = p) ∧
      ∀ (ε : Type) (execute : Text → Run ε Unit) (c : ε),
        (∀ code c, ∃ c', (execute code).Ends c (.ok ()) c') →
        ∃ x c', (Extractor.keep (fun code => (execute code).noted fun _ => code) extensionLanguage
            lines).Ends ({}, (c, [])) (.ok p.passed) (x, (c', p.codes)) ∧
          x.executed = p.codes.length ∧
          (p.unclosed? = none → x.finish = .ok ()) ∧
          ∀ opening, p.unclosed? = some opening → ∃ fault, x.finish = .error fault ∧
            fault.kind = .structural ∧
            fault = .ofProblem (.missingExtensionFence opening.location)) ∧
    ∀ (ε : Type) (evaluator : Evaluator ε) (c : ε),
      ∃ turns after call? now r c', ∃ p : Parting extensionLanguage,
        (select evaluator.recorded extensionLanguage lines).Ends (c, []) r
          (c', calls turns ++ call?.toList) ∧
        evaluator.Performs c (calls turns ++ call?.toList) c' ∧
        lines = turns.map Turn.line ++ after ∧ Judged {} turns now ∧ p.lines = seen turns ∧
        (turns.filter Turn.kept).map Turn.call? = p.runs.map (Option.map Call.finished) ∧
        Ending p now after call? r := by
  constructor
  · obtain ⟨p, rfl⟩ := exists_parting extensionLanguage lines
    refine ⟨p, rfl, fun q hq => Parting.eq_of_lines_eq hq, ?_⟩
    intro ε execute c hexecute
    have hextract := p.extract_lines (x := {}) rfl
    obtain ⟨c', hcodes⟩ :=
      exists_ends_noted hexecute (extract extensionLanguage {} p.lines).codes c []
    have hkeep := Extractor.ends_keep hcodes
    rw [hextract] at hkeep
    obtain ⟨hclosed, hopen⟩ := p.finish_last (x := {}) rfl
    refine ⟨p.last {}, c', hkeep, by simpa using p.executed_last {}, hclosed, fun opening h => ?_⟩
    exact ⟨_, hopen opening h, rfl, rfl⟩
  · intro ε evaluator c
    obtain ⟨turns, after, call?, now, r, ⟨c', record⟩, p, hselect, hperforms, hlines, hjudged, hp, hcalls,
      hending⟩ := exists_ending evaluator.recorded extensionLanguage lines (c, [])
    obtain ⟨hcalled, hrecord⟩ := hperforms.of_recorded
    rw [List.nil_append] at hrecord
    subst hrecord
    exact ⟨turns, after, call?, now, r, c', p, hselect, hcalled, hlines, hjudged, hp, hcalls, hending⟩

open Extractor in
/-- The first region is closed by a fence that is indented, the second one is not closed. -/
theorem Sieve.extension_code_runs_once_open_end :
    let opening : Line := ⟨"``` py !\n".toList, none, 5⟩
    let lines : List Line := [⟨"``` py !\n".toList, none, 1⟩, ⟨"x\n".toList, none, 2⟩,
      ⟨" ```\n".toList, none, 3⟩, ⟨"t\n".toList, none, 4⟩, opening, ⟨"y\n".toList, none, 6⟩]
    ∃ x, (Extractor.keep (fun code => (pure () : Run Unit Unit).noted fun _ => code) "py".toList
        lines).Ends ({}, ((), [])) (.ok [⟨"t\n".toList, none, 4⟩]) (x, ((), ["x\n".toList])) ∧
      x.executed = 1 ∧
      x.finish = .error (.ofProblem (.missingExtensionFence opening.location)) := by
  intro opening lines
  let p : Parting "py".toList :=
    .region ⟨"``` py !\n".toList, none, 1⟩ (by decide +kernel) [⟨"x\n".toList, none, 2⟩]
      (by decide +kernel) ⟨" ```\n".toList, none, 3⟩ (by decide +kernel)
      (.pass ⟨"t\n".toList, none, 4⟩ (by decide +kernel)
        (.unclosed opening (by decide +kernel) [⟨"y\n".toList, none, 6⟩] (by decide +kernel)))
  obtain ⟨⟨q, -, hunique, hkeeps⟩, -⟩ := extension_code_runs_once "py".toList lines
  obtain rfl : p = q := hunique p rfl
  obtain ⟨x, c', hkeep, hexecuted, -, hopen⟩ :=
    hkeeps Unit (fun _ => pure ()) () fun _ c => ⟨c, Run.ends_pure () c⟩
  obtain ⟨fault, hfinish, -, rfl⟩ := hopen opening rfl
  exact ⟨x, hkeep, hexecuted, hfinish⟩

end Literate
