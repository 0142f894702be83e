import Mathlib
import Literate.Condition
import Literate.Proofs.Run

/-! # Conditions as nested branches

The conditions are a flat machine: a stack of frames, the top of which every directive changes. What
they come to is a tree. An `Outline` is a document cut into its ordinary lines and its conditionals, a
conditional into its branches, with the answer each evaluated condition got. An outline knows

* its `lines`, in order;
* which of them are `kept`, where an ordinary line asks only about the branch it stands in;
* the conditions that were `asked`, in order, with their answers.

Outlines hold no unmatched directive and no answer to a condition that is not to be asked: `Branches`
carries whether a branch was selected so far, and only without one has an `elsif` an answer.

The machine ends well on exactly the lines of outlines whose answers the evaluator gives
(`Outline.ends_feed`, `exists_outline`), and then keeps what the outline keeps. Whether there is an
outline is a matter of counting the open conditionals (`WellNested`) and of the evaluations that are
made, which `recorded` writes down. -/

namespace Literate

/-! ### What a line is to the conditions -/

/-- A line as the conditions see it. -/
inductive Mark where
  | ordinary
  | opening (condition : Text)
  | elsif (condition : Text)
  | otherwise
  | closing

/-- The mark of a line; directives that name files are ordinary lines here. -/
def Line.mark (line : Line) : Mark :=
  match Directive.parse? line.text with
  | some (.ifCondition condition) => .opening condition
  | some (.elsifCondition condition) => .elsif condition
  | some .elseBranch => .otherwise
  | some .endBranch => .closing
  | _ => .ordinary

/-- With `depth` conditionals open, every `elsif`, `else` and `end` among the lines belongs to an open
`if`, and after the last line none is open. -/
def WellNested (depth : Nat) : List Line → Prop
  | [] => depth = 0
  | line :: rest =>
    match line.mark with
    | .ordinary => WellNested depth rest
    | .opening _ => WellNested (depth + 1) rest
    | .elsif _ | .otherwise => 0 < depth ∧ WellNested depth rest
    | .closing => 0 < depth ∧ WellNested (depth - 1) rest

/-! ### Outlines -/

mutual

/-- A document as its ordinary lines and its conditionals, with the answers that conditions got. -/
inductive Outline : Type where
  | nil
  | line (line : Line) (ordinary : line.mark = .ordinary) (rest : Outline)
  | conditional (line : Line) (condition : Text) (opening : line.mark = .opening condition)
      (answer : Bool) (body : Outline) (branches : Branches answer) (rest : Outline)

/-- What follows the first branch of a conditional, up to its `end`. The index says whether a branch
was selected before. -/
inductive Branches : Bool → Type where
  | elsif (line : Line) (condition : Text) (mark : line.mark = .elsif condition) (answer : Bool)
      (body : Outline) (rest : Branches answer) : Branches false
  | passed (line : Line) (condition : Text) (mark : line.mark = .elsif condition)
      (body : Outline) (rest : Branches true) : Branches true
  | otherwise {selected : Bool} (line : Line) (mark : line.mark = .otherwise)
      (body : Outline) (rest : Branches true) : Branches selected
  | closing {selected : Bool} (line : Line) (mark : line.mark = .closing) : Branches selected

end

mutual

/-- The lines of a document. -/
def Outline.lines : Outline → List Line
  | .nil => []
  | .line line _ rest => line :: rest.lines
  | .conditional line _ _ _ body branches rest =>
    line :: (body.lines ++ (branches.lines ++ rest.lines))

def Branches.lines {selected : Bool} : Branches selected → List Line
  | .elsif line _ _ _ body rest => line :: (body.lines ++ rest.lines)
  | .passed line _ _ body rest => line :: (body.lines ++ rest.lines)
  | .otherwise line _ body rest => line :: (body.lines ++ rest.lines)
  | .closing line _ => [line]

end

mutual

/-- For each line whether it is kept. An ordinary line is if the branch around it is selected, whatever
stands further out; `here` says so for the lines outside the conditionals of this outline. -/
def Outline.kept (here : Bool) : Outline → List Bool
  | .nil => []
  | .line _ _ rest => here :: rest.kept here
  | .conditional _ _ _ answer body branches rest =>
    false :: (body.kept answer ++ (branches.kept ++ rest.kept here))

/-- An `elsif` that is asked and gets the answer yes is selected, and an `else` with no selected branch
before it; no other branch is. -/
def Branches.kept {selected : Bool} : Branches selected → List Bool
  | .elsif _ _ _ answer body rest => false :: (body.kept answer ++ rest.kept)
  | .passed _ _ _ body rest => false :: (body.kept false ++ rest.kept)
  | .otherwise _ _ body rest => false :: (body.kept (!selected) ++ rest.kept)
  | .closing _ _ => [false]

end

mutual

/-- The conditions that were evaluated, in the order of the document, and their answers. -/
def Outline.asked : Outline → List (Text × Bool)
  | .nil => []
  | .line _ _ rest => rest.asked
  | .conditional _ condition _ answer body branches rest =>
    (condition, answer) :: (body.asked ++ (branches.asked ++ rest.asked))

def Branches.asked {selected : Bool} : Branches selected → List (Text × Bool)
  | .elsif _ condition _ answer body rest => (condition, answer) :: (body.asked ++ rest.asked)
  | .passed _ _ _ body rest => body.asked ++ rest.asked
  | .otherwise _ _ body rest => body.asked ++ rest.asked
  | .closing _ _ => []

end

mutual

theorem Outline.wellNested_append (depth : Nat) (after : List Line) : ∀ outline : Outline,
    WellNested depth (outline.lines ++ after) ↔ WellNested depth after
  | .nil => Iff.rfl
  | .line line ordinary rest => by
      simp only [Outline.lines, List.cons_append, WellNested, ordinary]
      exact rest.wellNested_append depth after
  | .conditional line condition opening answer body branches rest => by
      simp only [Outline.lines, List.cons_append, List.append_assoc, WellNested, opening]
      rw [body.wellNested_append, branches.wellNested_append, rest.wellNested_append]

theorem Branches.wellNested_append {selected : Bool} (depth : Nat) (after : List Line) :
    ∀ branches : Branches selected,
      WellNested (depth + 1) (branches.lines ++ after) ↔ WellNested depth after
  | .elsif line condition mark answer body rest => by
      simp only [Branches.lines, List.cons_append, List.append_assoc, WellNested, mark]
      rw [body.wellNested_append, rest.wellNested_append]
      simp
  | .passed line condition mark body rest => by
      simp only [Branches.lines, List.cons_append, List.append_assoc, WellNested, mark]
      rw [body.wellNested_append, rest.wellNested_append]
      simp
  | .otherwise line mark body rest => by
      simp only [Branches.lines, List.cons_append, List.append_assoc, WellNested, mark]
      rw [body.wellNested_append, rest.wellNested_append]
      simp
  | .closing line mark => by
      simp [Branches.lines, WellNested, mark]

end

theorem Outline.wellNested (outline : Outline) : WellNested 0 outline.lines := by
  have h := outline.wellNested_append 0 []
  rw [List.append_nil] at h
  exact h.2 rfl

/-! ### Evaluating conditions -/

section evaluation

variable {ε : Type}

/-- Evaluated one after the other, the conditions get these answers. -/
inductive Evaluates (evaluate : Text → Run ε Bool) : ε → List (Text × Bool) → ε → Prop where
  | nil (c : ε) : Evaluates evaluate c [] c
  | cons {c c₁ c₂ : ε} {condition : Text} {answer : Bool} {asked : List (Text × Bool)} :
      (evaluate condition).Ends c (.ok answer) c₁ → Evaluates evaluate c₁ asked c₂ →
      Evaluates evaluate c ((condition, answer) :: asked) c₂

theorem Evaluates.append {evaluate : Text → Run ε Bool} {c c₁ c₂ : ε}
    {asked more : List (Text × Bool)} (h : Evaluates evaluate c asked c₁)
    (hmore : Evaluates evaluate c₁ more c₂) : Evaluates evaluate c (asked ++ more) c₂ := by
  induction h with
  | nil c => exact hmore
  | cons he _ ih => exact .cons he (ih hmore)

theorem Evaluates.of_append {evaluate : Text → Run ε Bool} {c₂ : ε}
    {more : List (Text × Bool)} : ∀ {asked : List (Text × Bool)} {c : ε},
    Evaluates evaluate c (asked ++ more) c₂ →
      ∃ c₁, Evaluates evaluate c asked c₁ ∧ Evaluates evaluate c₁ more c₂
  | [], c, h => ⟨c, .nil c, h⟩
  | _ :: _, _, .cons he h => by
      obtain ⟨c₁, hasked, hmore⟩ := of_append h
      exact ⟨c₁, .cons he hasked, hmore⟩

/-- An evaluator that writes down what it is asked and what comes of it. -/
def recorded (evaluate : Text → Run ε Bool) (condition : Text) :
    Run (ε × List (Text × Except Fault Bool)) Bool := fun (c, record) =>
  let out := (evaluate condition).run c
  ⟨out.result, (out.state, record ++ [(condition, out.result)]), out.log⟩

theorem ends_recorded {evaluate : Text → Run ε Bool} {condition : Text} {c c' : ε}
    {r : Except Fault Bool} {record record' : List (Text × Except Fault Bool)} :
    (recorded evaluate condition).Ends (c, record) r (c', record') ↔
      (evaluate condition).Ends c r c' ∧ record' = record ++ [(condition, r)] := by
  constructor
  · rintro ⟨rfl, h⟩
    cases h
    exact ⟨⟨rfl, rfl⟩, rfl⟩
  · rintro ⟨⟨rfl, rfl⟩, rfl⟩
    exact ⟨rfl, rfl⟩

/-- A recorded evaluation goes as one that is not, and writes down all answers. -/
theorem evaluates_recorded {evaluate : Text → Run ε Bool} {c' : ε}
    {record' : List (Text × Except Fault Bool)} :
    ∀ {asked : List (Text × Bool)} {c : ε} {record : List (Text × Except Fault Bool)},
    Evaluates (recorded evaluate) (c, record) asked (c', record') ↔
      Evaluates evaluate c asked c' ∧
        record' = record ++ asked.map fun q => (q.1, .ok q.2)
  | [], c, record => by
      rw [List.map_nil, List.append_nil]
      constructor
      · intro h
        cases h with
        | nil => exact ⟨.nil _, rfl⟩
      · rintro ⟨h, rfl⟩
        cases h with
        | nil => exact .nil _
  | (condition, answer) :: asked, c, record => by
      constructor
      · intro h
        cases h with
        | @cons _ p _ _ _ _ he h =>
            obtain ⟨c₁, record₁⟩ := p
            obtain ⟨he', rfl⟩ := ends_recorded.1 he
            obtain ⟨h', rfl⟩ := evaluates_recorded.1 h
            exact ⟨.cons he' h', by simp⟩
      · rintro ⟨h, rfl⟩
        cases h with
        | cons he h =>
            refine .cons (ends_recorded.2 ⟨he, rfl⟩) (evaluates_recorded.2 ⟨h, ?_⟩)
            simp

theorem ok_of_mem_map {asked : List (Text × Bool)} {q : Text × Except Fault Bool}
    (h : q ∈ asked.map fun q => (q.1, .ok q.2)) : ∃ answer, q.2 = .ok answer := by
  obtain ⟨⟨condition, answer⟩, -, rfl⟩ := List.mem_map.1 h
  exact ⟨answer, rfl⟩

end evaluation

/-! ### One line -/

theorem Line.parse?_of_mark (line : Line) :
    match line.mark with
    | .ordinary => True
    | .opening condition => Directive.parse? line.text = some (.ifCondition condition)
    | .elsif condition => Directive.parse? line.text = some (.elsifCondition condition)
    | .otherwise => Directive.parse? line.text = some .elseBranch
    | .closing => Directive.parse? line.text = some .endBranch := by
  unfold Line.mark
  generalize Directive.parse? line.text = directive
  rcases directive with _ | _ | _ | _ | _ | _ | _ <;> trivial

/-- The keyword of a directive that needs an open conditional. -/
def Mark.inner? : Mark → Option String
  | .elsif _ => some "elsif"
  | .otherwise => some "else"
  | .closing => some "end"
  | _ => none

namespace Conditions

variable {ε : Type} {evaluate : Text → Run ε Bool} {line : Line} {s s' : Conditions × ε}

/-- All that a line can do to the machine. -/
inductive Step (evaluate : Text → Run ε Bool) (line : Line) :
    Conditions × ε → Except Fault Bool → Conditions × ε → Prop where
  | ordinary {here : Bool} {stack : List Frame} {c : ε} (mark : line.mark = .ordinary) :
      Step evaluate line (⟨here, stack⟩, c) (.ok here) (⟨here, stack⟩, c)
  | opening {condition : Text} {here answer : Bool} {stack : List Frame} {c c' : ε}
      (mark : line.mark = .opening condition) (ends : (evaluate condition).Ends c (.ok answer) c') :
      Step evaluate line (⟨here, stack⟩, c) (.ok false) (⟨answer, ⟨here, !answer⟩ :: stack⟩, c')
  | openingFails {condition : Text} {now : Conditions} {fault : Fault} {c c' : ε}
      (mark : line.mark = .opening condition) (ends : (evaluate condition).Ends c (.error fault) c') :
      Step evaluate line (now, c) (.error fault) (now, c')
  | elsif {condition : Text} {here previous answer : Bool} {stack : List Frame} {c c' : ε}
      (mark : line.mark = .elsif condition) (ends : (evaluate condition).Ends c (.ok answer) c') :
      Step evaluate line (⟨here, ⟨previous, true⟩ :: stack⟩, c) (.ok false)
        (⟨answer, ⟨previous, !answer⟩ :: stack⟩, c')
  | elsifFails {condition : Text} {here previous : Bool} {stack : List Frame} {fault : Fault}
      {c c' : ε} (mark : line.mark = .elsif condition)
      (ends : (evaluate condition).Ends c (.error fault) c') :
      Step evaluate line (⟨here, ⟨previous, true⟩ :: stack⟩, c) (.error fault)
        (⟨here, ⟨previous, true⟩ :: stack⟩, c')
  | passed {condition : Text} {here previous : Bool} {stack : List Frame} {c : ε}
      (mark : line.mark = .elsif condition) :
      Step evaluate line (⟨here, ⟨previous, false⟩ :: stack⟩, c) (.ok false)
        (⟨false, ⟨previous, false⟩ :: stack⟩, c)
  | otherwise {here previous eligible : Bool} {stack : List Frame} {c : ε}
      (mark : line.mark = .otherwise) :
      Step evaluate line (⟨here, ⟨previous, eligible⟩ :: stack⟩, c) (.ok false)
        (⟨eligible, ⟨previous, false⟩ :: stack⟩, c)
  | closing {here : Bool} {frame : Frame} {stack : List Frame} {c : ε}
      (mark : line.mark = .closing) :
      Step evaluate line (⟨here, frame :: stack⟩, c) (.ok false) (⟨frame.previous, stack⟩, c)
  | unmatched {keyword : String} {here : Bool} {c : ε} (mark : line.mark.inner? = some keyword) :
      Step evaluate line (⟨here, []⟩, c)
        (.error (.ofProblem (.unmatched keyword.toList line.location))) (⟨here, []⟩, c)

theorem Step.ends {r : Except Fault Bool} (h : Step evaluate line s r s') :
    (step evaluate line).Ends s r s' := by
  have hd := line.parse?_of_mark
  unfold step
  cases h with
  | ordinary mark =>
      unfold Line.mark at mark
      generalize Directive.parse? line.text = directive at mark ⊢
      rcases directive with _ | _ | _ | _ | _ | _ | _ <;> first | exact ⟨rfl, rfl⟩ | cases mark
  | opening mark ends =>
      rw [mark] at hd
      rw [hd]
      exact ends.onSecond.bind ⟨rfl, rfl⟩
  | openingFails mark ends =>
      rw [mark] at hd
      rw [hd]
      exact ends.onSecond.bind_error
  | @elsif _ _ previous _ stack _ _ mark ends =>
      rw [mark] at hd
      rw [hd]
      refine Run.Ends.bind (a := (⟨previous, true⟩, stack)) ⟨rfl, rfl⟩ ?_
      exact ends.onSecond.bind ⟨rfl, rfl⟩
  | @elsifFails _ _ previous stack _ _ _ mark ends =>
      rw [mark] at hd
      rw [hd]
      refine Run.Ends.bind (a := (⟨previous, true⟩, stack)) ⟨rfl, rfl⟩ ?_
      exact ends.onSecond.bind_error
  | passed mark =>
      rw [mark] at hd
      rw [hd]
      exact ⟨rfl, rfl⟩
  | otherwise mark =>
      rw [mark] at hd
      rw [hd]
      exact ⟨rfl, rfl⟩
  | closing mark =>
      rw [mark] at hd
      rw [hd]
      exact ⟨rfl, rfl⟩
  | unmatched mark =>
      generalize line.mark = m at hd mark
      cases m with
      | ordinary => cases mark
      | opening condition => cases mark
      | elsif condition =>
          cases mark
          rw [hd]
          exact ⟨rfl, rfl⟩
      | otherwise =>
          cases mark
          rw [hd]
          exact ⟨rfl, rfl⟩
      | closing =>
          cases mark
          rw [hd]
          exact ⟨rfl, rfl⟩

theorem exists_step (evaluate : Text → Run ε Bool) (line : Line) :
    ∀ s : Conditions × ε, ∃ r s', Step evaluate line s r s' := by
  rintro ⟨⟨here, stack⟩, c⟩
  cases hm : line.mark with
  | ordinary => exact ⟨_, _, .ordinary hm⟩
  | opening condition =>
      rcases (evaluate condition).ends_cases c with ⟨answer, c', he⟩ | ⟨fault, c', he⟩
      · exact ⟨_, _, .opening hm he⟩
      · exact ⟨_, _, .openingFails hm he⟩
  | elsif condition =>
      rcases stack with _ | ⟨⟨previous, _ | _⟩, stack⟩
      · exact ⟨_, _, .unmatched (congrArg Mark.inner? hm)⟩
      · exact ⟨_, _, .passed hm⟩
      · rcases (evaluate condition).ends_cases c with ⟨answer, c', he⟩ | ⟨fault, c', he⟩
        · exact ⟨_, _, .elsif hm he⟩
        · exact ⟨_, _, .elsifFails hm he⟩
  | otherwise =>
      rcases stack with _ | ⟨frame, stack⟩
      · exact ⟨_, _, .unmatched (congrArg Mark.inner? hm)⟩
      · exact ⟨_, _, .otherwise hm⟩
  | closing =>
      rcases stack with _ | ⟨frame, stack⟩
      · exact ⟨_, _, .unmatched (congrArg Mark.inner? hm)⟩
      · exact ⟨_, _, .closing hm⟩

theorem ends_step_iff {r : Except Fault Bool} :
    (step evaluate line).Ends s r s' ↔ Step evaluate line s r s' := by
  constructor
  · intro h
    obtain ⟨r', t, hstep⟩ := exists_step evaluate line s
    obtain ⟨rfl, rfl⟩ := hstep.ends.unique h
    exact hstep
  · exact Step.ends

/-! ### All lines -/

/-- Take in lines one after the other: for each whether it is kept. -/
def feed (evaluate : Text → Run ε Bool) (lines : List Line) : Run (Conditions × ε) (List Bool) :=
  lines.mapM (step evaluate)

/-- Take in the lines of a whole document. -/
def judge (evaluate : Text → Run ε Bool) (lines : List Line) :
    Run (Conditions × ε) (List Bool) := do
  let kept ← feed evaluate lines
  Run.ofExcept (← Run.get).1.checkBalance
  return kept

variable {lines : List Line} {flags : List Bool} {s'' : Conditions × ε}

theorem ends_feed_nil : (feed evaluate []).Ends s (.ok []) s := ⟨rfl, rfl⟩

theorem feed_cons : feed evaluate (line :: lines) = (do
    let flag ← step evaluate line
    let flags ← feed evaluate lines
    pure (flag :: flags)) := List.mapM_cons

theorem Step.ends_feed {flag : Bool} (hstep : Step evaluate line s (.ok flag) s')
    (hrest : (feed evaluate lines).Ends s' (.ok flags) s'') :
    (feed evaluate (line :: lines)).Ends s (.ok (flag :: flags)) s'' := by
  rw [feed_cons]
  exact hstep.ends.bind (hrest.bind (Run.ends_pure _ _))

theorem of_ends_feed_cons (h : (feed evaluate (line :: lines)).Ends s (.ok flags) s'') :
    ∃ flag flags' s', flags = flag :: flags' ∧ Step evaluate line s (.ok flag) s' ∧
      (feed evaluate lines).Ends s' (.ok flags') s'' := by
  rw [feed_cons] at h
  obtain ⟨flag, s', hstep, h⟩ := Run.ends_bind_ok.1 h
  obtain ⟨flags', t, hrest, h⟩ := Run.ends_bind_ok.1 h
  obtain ⟨hflags, rfl⟩ := Run.ends_pure_iff.1 h
  exact ⟨flag, flags', s', Except.ok.inj hflags, ends_step_iff.1 hstep, hrest⟩

theorem ends_feed_append {more : List Line} {flags' : List Bool}
    (h : (feed evaluate lines).Ends s (.ok flags) s')
    (hmore : (feed evaluate more).Ends s' (.ok flags') s'') :
    (feed evaluate (lines ++ more)).Ends s (.ok (flags ++ flags')) s'' := by
  unfold feed
  rw [List.mapM_append]
  exact h.bind (hmore.bind (Run.ends_pure _ _))

theorem of_ends_feed_append {more : List Line}
    (h : (feed evaluate (lines ++ more)).Ends s (.ok flags) s'') :
    ∃ before after s', flags = before ++ after ∧ (feed evaluate lines).Ends s (.ok before) s' ∧
      (feed evaluate more).Ends s' (.ok after) s'' := by
  unfold feed at h
  rw [List.mapM_append] at h
  obtain ⟨before, s', hbefore, h⟩ := Run.ends_bind_ok.1 h
  obtain ⟨after, t, hafter, h⟩ := Run.ends_bind_ok.1 h
  obtain ⟨hflags, rfl⟩ := Run.ends_pure_iff.1 h
  exact ⟨before, after, s', Except.ok.inj hflags, hbefore, hafter⟩

theorem checkBalance_eq_ok {now : Conditions} : now.checkBalance = .ok () ↔ now.stack = [] := by
  unfold checkBalance
  cases now.stack <;> simp

/-- A document ends well if its lines do and leave no conditional open. -/
theorem ends_judge_ok :
    (judge evaluate lines).Ends s (.ok flags) s' ↔
      (feed evaluate lines).Ends s (.ok flags) s' ∧ s'.1.stack = [] := by
  unfold judge
  constructor
  · intro h
    obtain ⟨kept, t, hfeed, h⟩ := Run.ends_bind_ok.1 h
    obtain ⟨now, t₁, hget, h⟩ := Run.ends_bind_ok.1 h
    obtain ⟨hnow, rfl⟩ := (Run.ends_get t).unique hget
    cases hnow
    obtain ⟨u, t₁, hbalance, h⟩ := Run.ends_bind_ok.1 h
    obtain ⟨hok, rfl⟩ := (Run.ends_ofExcept _ _).unique hbalance
    obtain ⟨hkept, rfl⟩ := Run.ends_pure_iff.1 h
    cases hkept
    exact ⟨hfeed, checkBalance_eq_ok.1 hok⟩
  · rintro ⟨hfeed, hstack⟩
    refine hfeed.bind ((Run.ends_get s').bind ?_)
    have hbalance := Run.ends_ofExcept s'.1.checkBalance s'
    rw [checkBalance_eq_ok.2 hstack] at hbalance ⊢
    exact hbalance.bind (Run.ends_pure _ _)

end Conditions

/-! ### Outlines as the machine runs them -/

section outline

open Conditions

variable {ε : Type} {evaluate : Text → Run ε Bool}

mutual

/-- On the lines of an outline, with the answers it holds, the machine keeps what the outline keeps
and is afterwards as it was before. -/
theorem Outline.ends_feed {here : Bool} {stack : List Frame} {c c' : ε} : ∀ outline : Outline,
    Evaluates evaluate c outline.asked c' →
      (feed evaluate outline.lines).Ends (⟨here, stack⟩, c) (.ok (outline.kept here))
        (⟨here, stack⟩, c')
  | .nil, h => by
      cases h with
      | nil => exact ends_feed_nil
  | .line line mark rest, h => (Step.ordinary mark).ends_feed (rest.ends_feed h)
  | .conditional line condition mark answer body branches rest, h => by
      cases h with
      | cons he h =>
          obtain ⟨c₁, hbody, h⟩ := h.of_append
          obtain ⟨c₂, hbranches, hrest⟩ := h.of_append
          refine (Step.opening mark he).ends_feed ?_
          refine ends_feed_append (body.ends_feed hbody) ?_
          exact ends_feed_append (branches.ends_feed hbranches) (rest.ends_feed hrest)

/-- On what follows the first branch of a conditional, the machine closes the conditional. -/
theorem Branches.ends_feed {selected here previous : Bool} {stack : List Frame} {c c' : ε} :
    ∀ branches : Branches selected, Evaluates evaluate c branches.asked c' →
      (feed evaluate branches.lines).Ends (⟨here, ⟨previous, !selected⟩ :: stack⟩, c)
        (.ok branches.kept) (⟨previous, stack⟩, c')
  | .elsif line condition mark answer body rest, h => by
      cases h with
      | cons he h =>
          obtain ⟨c₁, hbody, hrest⟩ := h.of_append
          refine (Step.elsif mark he).ends_feed ?_
          exact ends_feed_append (body.ends_feed hbody) (rest.ends_feed hrest)
  | .passed line condition mark body rest, h => by
      obtain ⟨c₁, hbody, hrest⟩ := h.of_append
      refine (Step.passed mark).ends_feed ?_
      exact ends_feed_append (body.ends_feed hbody) (rest.ends_feed hrest)
  | .otherwise line mark body rest, h => by
      obtain ⟨c₁, hbody, hrest⟩ := h.of_append
      refine (Step.otherwise mark).ends_feed ?_
      exact ends_feed_append (body.ends_feed hbody) (rest.ends_feed hrest)
  | .closing line mark, h => by
      cases h with
      | nil => exact (Step.closing mark).ends_feed ends_feed_nil

end

/-- The lines, read from inside the conditionals of `stack` to where none is open: without one they
are those of an outline; otherwise they go to the `end` of the innermost, and on from there. -/
def Reads (evaluate : Text → Run ε Bool) (here : Bool) (c : ε) (lines : List Line)
    (flags : List Bool) (here' : Bool) (c' : ε) : List Frame → Prop
  | [] => ∃ outline : Outline, outline.lines = lines ∧ outline.kept here = flags ∧
      Evaluates evaluate c outline.asked c'
  | frame :: stack => ∃ (selected : Bool) (body : Outline) (branches : Branches selected)
      (after : List Line) (flags' : List Bool) (c₁ : ε), frame.eligible = !selected ∧
      body.lines ++ (branches.lines ++ after) = lines ∧
      body.kept here ++ (branches.kept ++ flags') = flags ∧
      Evaluates evaluate c (body.asked ++ branches.asked) c₁ ∧
      (feed evaluate after).Ends (⟨frame.previous, stack⟩, c₁) (.ok flags') (⟨here', []⟩, c')

variable {here here' : Bool} {c c₁ c' : ε} {lines : List Line} {flags : List Bool}
  {asked : List (Text × Bool)} {stack : List Frame}

/-- Something that can stand before any outline can stand before what is read. -/
theorem Reads.prepend {before : List Line} {marks : List Bool} (item : Outline → Outline)
    (hlines : ∀ o, (item o).lines = before ++ o.lines)
    (hkept : ∀ o, (item o).kept here = marks ++ o.kept here)
    (hasked : ∀ o, (item o).asked = asked ++ o.asked) (he : Evaluates evaluate c asked c₁) :
    ∀ {stack : List Frame}, Reads evaluate here c₁ lines flags here' c' stack →
      Reads evaluate here c (before ++ lines) (marks ++ flags) here' c' stack
  | [], ⟨outline, hl, hk, ha⟩ => by
      refine ⟨item outline, ?_, ?_, ?_⟩
      · rw [hlines, hl]
      · rw [hkept, hk]
      · rw [hasked]
        exact he.append ha
  | frame :: stack, ⟨selected, body, branches, after, flags', c₂, hs, hl, hk, ha, hafter⟩ => by
      refine ⟨selected, item body, branches, after, flags', c₂, hs, ?_, ?_, ?_, hafter⟩
      · rw [hlines, List.append_assoc, hl]
      · rw [hkept, List.append_assoc, hk]
      · rw [hasked, List.append_assoc]
        exact he.append ha

/-- A directive that starts the next branch stands before the rest of its conditional. -/
theorem Reads.branch {inside previous selected selected' : Bool} {line : Line}
    (item : Outline → Branches selected' → Branches selected)
    (hlines : ∀ o b, (item o b).lines = line :: (o.lines ++ b.lines))
    (hkept : ∀ o b, (item o b).kept = false :: (o.kept inside ++ b.kept))
    (hasked : ∀ o b, (item o b).asked = asked ++ (o.asked ++ b.asked))
    (he : Evaluates evaluate c asked c₁)
    (h : Reads evaluate inside c₁ lines flags here' c' (⟨previous, !selected'⟩ :: stack)) :
    Reads evaluate here c (line :: lines) (false :: flags) here' c'
      (⟨previous, !selected⟩ :: stack) := by
  obtain ⟨selected₁, body, branches, after, flags', c₂, hs, rfl, rfl, ha, hafter⟩ := h
  obtain rfl : selected' = selected₁ := by simpa using hs
  refine ⟨selected, .nil, item body branches, after, flags', c₂, rfl, ?_, ?_, ?_, hafter⟩
  · simp [Outline.lines, hlines]
  · simp [Outline.kept, hkept]
  · rw [hasked]
    exact he.append ha

/-- What the machine takes in up to a point where no conditional is open, it reads so. The recursion is
on the number of lines: after an `if` it goes on behind the `end` that belongs to it. -/
theorem reads_of_ends_feed : ∀ (lines : List Line) {here : Bool} {stack : List Frame} {c : ε}
    {flags : List Bool},
    (feed evaluate lines).Ends (⟨here, stack⟩, c) (.ok flags) (⟨here', []⟩, c') →
      Reads evaluate here c lines flags here' c' stack
  | [], here, stack, c, flags, h => by
      obtain ⟨hflags, hs⟩ := ends_feed_nil.unique h
      cases hflags
      cases hs
      exact ⟨.nil, rfl, rfl, .nil _⟩
  | line :: lines, here, stack, c, flags, h => by
      obtain ⟨flag, flags, s, rfl, hstep, hrest⟩ := of_ends_feed_cons h
      cases hstep with
      | ordinary mark =>
          show Reads evaluate here c ([line] ++ lines) ([here] ++ flags) here' c' stack
          exact (reads_of_ends_feed lines hrest).prepend (.line line mark) (fun _ => rfl)
            (fun _ => rfl) (fun _ => rfl) (.nil c)
      | @opening condition _ answer _ _ _ mark ends =>
          obtain ⟨selected, body, branches, after, flags', c₂, hs, hl, rfl, ha, hafter⟩ :=
            reads_of_ends_feed lines hrest
          obtain rfl : answer = selected := by simpa using hs
          have hshort : after.length < lines.length + 1 := by
            rw [← hl, List.length_append, List.length_append]
            omega
          have hreads : Reads evaluate here c ((line :: (body.lines ++ branches.lines)) ++ after)
              ((false :: (body.kept answer ++ branches.kept)) ++ flags') here' c' stack :=
            (reads_of_ends_feed after hafter).prepend
              (.conditional line condition mark answer body branches)
              (fun _ => by simp [Outline.lines]) (fun _ => by simp [Outline.kept])
              (fun _ => by simp [Outline.asked]) (.cons ends ha)
          simpa only [List.append_assoc, List.cons_append, hl] using hreads
      | @elsif condition _ _ answer _ _ _ mark ends =>
          exact (reads_of_ends_feed lines hrest).branch (.elsif line condition mark answer)
            (fun _ _ => rfl) (fun _ _ => rfl) (fun _ _ => rfl) (.cons ends (.nil _))
      | @passed condition _ _ _ _ mark =>
          exact (reads_of_ends_feed lines hrest).branch (.passed line condition mark)
            (fun _ _ => rfl) (fun _ _ => rfl) (fun _ _ => rfl) (.nil c)
      | @otherwise _ _ eligible _ _ mark =>
          obtain ⟨selected, rfl⟩ : ∃ selected, eligible = !selected := ⟨!eligible, by simp⟩
          exact (reads_of_ends_feed lines hrest).branch (.otherwise line mark)
            (fun _ _ => rfl) (fun _ _ => rfl) (fun _ _ => rfl) (.nil c)
      | @closing _ frame _ _ mark =>
          exact ⟨!frame.eligible, .nil, .closing line mark, lines, flags, c, by simp,
            rfl, rfl, .nil c, hrest⟩
termination_by lines => lines.length

/-- From the start, a document ends well exactly on the lines of an outline whose answers the evaluator
gives, and keeps what the outline keeps. -/
theorem ends_judge_iff :
    (∃ s, (judge evaluate lines).Ends ({}, c) (.ok flags) s) ↔
      ∃ (outline : Outline) (c' : ε), outline.lines = lines ∧ outline.kept true = flags ∧
        Evaluates evaluate c outline.asked c' := by
  constructor
  · rintro ⟨⟨⟨here, stack⟩, c'⟩, h⟩
    obtain ⟨hfeed, hstack⟩ := ends_judge_ok.1 h
    obtain rfl : stack = [] := hstack
    obtain ⟨outline, hlines, hkept, hasked⟩ := reads_of_ends_feed lines hfeed
    exact ⟨outline, c', hlines, hkept, hasked⟩
  · rintro ⟨outline, c', rfl, rfl, hasked⟩
    exact ⟨({}, c'), ends_judge_ok.2 ⟨outline.ends_feed hasked, rfl⟩⟩

end outline

/-! ### Lines that are not taken in -/

namespace Conditions

variable {ε : Type} {evaluate : Text → Run ε Bool} {line : Line} {lines : List Line}

/-- Either all lines are taken in and all conditionals closed, or an evaluation fails, and that it did
is written down. -/
def Settles (evaluate : Text → Run ε Bool) (lines : List Line)
    (s : Conditions × ε × List (Text × Except Fault Bool)) : Prop :=
  (∃ flags s', (feed (recorded evaluate) lines).Ends s (.ok flags) s' ∧ s'.1.stack = []) ∨
    ∃ fault s', (feed (recorded evaluate) lines).Ends s (.error fault) s' ∧
      ∃ condition, (condition, .error fault) ∈ s'.2.2

section settles

variable {s s' : Conditions × ε × List (Text × Except Fault Bool)}

theorem Step.settles {flag : Bool} (hstep : Step (recorded evaluate) line s (.ok flag) s')
    (h : Settles evaluate lines s') : Settles evaluate (line :: lines) s := by
  rcases h with ⟨flags, s'', h, hstack⟩ | ⟨fault, s'', h, hrecord⟩
  · exact .inl ⟨flag :: flags, s'', hstep.ends_feed h, hstack⟩
  · refine .inr ⟨fault, s'', ?_, hrecord⟩
    rw [feed_cons]
    exact hstep.ends.bind h.bind_error

theorem Step.settles_error {fault : Fault} {condition : Text} {now : Conditions}
    {p p' : ε × List (Text × Except Fault Bool)}
    (hstep : Step (recorded evaluate) line (now, p) (.error fault) (now, p'))
    (hends : (recorded evaluate condition).Ends p (.error fault) p') :
    Settles evaluate (line :: lines) (now, p) := by
  refine .inr ⟨fault, (now, p'), ?_, condition, ?_⟩
  · rw [feed_cons]
    exact hstep.ends.bind_error
  · show (condition, .error fault) ∈ p'.2
    rw [(ends_recorded.1 hends).2]
    exact List.mem_append_right _ List.mem_cons_self

end settles

theorem settles_of_wellNested : ∀ {lines : List Line} {now : Conditions}
    {p : ε × List (Text × Except Fault Bool)}, WellNested now.stack.length lines →
      Settles evaluate lines (now, p)
  | [], now, p, h => .inl ⟨[], (now, p), ends_feed_nil, List.length_eq_zero_iff.1 h⟩
  | line :: lines, now, p, h => by
      unfold WellNested at h
      obtain ⟨r, s', hstep⟩ := exists_step (recorded evaluate) line (now, p)
      cases hstep with
      | ordinary mark =>
          rw [mark] at h
          exact (Step.ordinary mark).settles (settles_of_wellNested h)
      | opening mark ends =>
          rw [mark] at h
          exact (Step.opening mark ends).settles (settles_of_wellNested h)
      | openingFails mark ends => exact (Step.openingFails mark ends).settles_error ends
      | elsif mark ends =>
          rw [mark] at h
          exact (Step.elsif mark ends).settles (settles_of_wellNested h.2)
      | elsifFails mark ends => exact (Step.elsifFails mark ends).settles_error ends
      | passed mark =>
          rw [mark] at h
          exact (Step.passed mark).settles (settles_of_wellNested h.2)
      | otherwise mark =>
          rw [mark] at h
          exact (Step.otherwise mark).settles (settles_of_wellNested h.2)
      | closing mark =>
          rw [mark] at h
          exact (Step.closing mark).settles (settles_of_wellNested h.2)
      | unmatched mark =>
          cases hm : line.mark with
          | ordinary => simp [hm, Mark.inner?] at mark
          | opening condition => simp [hm, Mark.inner?] at mark
          | elsif condition => simp [hm] at h
          | otherwise => simp [hm] at h
          | closing => simp [hm] at h

/-! ### What a balanced run of lines leaves -/

/-- Whether lines are kept once the given frames, innermost first, are closed. -/
def outside (here : Bool) : List Frame → Bool
  | [] => here
  | frame :: stack => outside frame.previous stack

/-- Lines that close the frames of `inner` and all they open leave the frames below as they were, and
lines kept or not as before the first of them was opened. -/
theorem feed_balanced {base : List Frame} : ∀ (lines : List Line) (inner : List Frame)
    {here : Bool} {stack : List Frame} {c : ε} {flags : List Bool} {s : Conditions × ε},
    WellNested inner.length lines → stack = inner ++ base →
    (feed evaluate lines).Ends (⟨here, stack⟩, c) (.ok flags) s →
      s.1 = ⟨outside here inner, base⟩
  | [], inner, here, stack, c, flags, s, hw, hstack, h => by
      obtain rfl := List.length_eq_zero_iff.1 hw
      obtain ⟨-, rfl⟩ := ends_feed_nil.unique h
      rw [hstack]
      rfl
  | line :: lines, inner, here, stack, c, flags, s, hw, hstack, h => by
      obtain ⟨flag, flags', s', -, hstep, hrest⟩ := of_ends_feed_cons h
      unfold WellNested at hw
      cases hstep with
      | ordinary mark =>
          rw [mark] at hw
          exact feed_balanced lines inner hw hstack hrest
      | @opening _ _ answer _ _ _ mark ends =>
          rw [mark] at hw
          exact feed_balanced lines (⟨here, !answer⟩ :: inner) hw (hstack ▸ rfl) hrest
      | @elsif _ _ previous answer _ _ _ mark ends =>
          rw [mark] at hw
          obtain ⟨frame, inner, rfl⟩ := List.exists_cons_of_length_pos hw.1
          obtain ⟨rfl, rfl⟩ := List.cons.inj hstack
          exact feed_balanced lines (⟨previous, !answer⟩ :: inner) hw.2 rfl hrest
      | @passed _ _ previous _ _ mark =>
          rw [mark] at hw
          obtain ⟨frame, inner, rfl⟩ := List.exists_cons_of_length_pos hw.1
          obtain ⟨rfl, rfl⟩ := List.cons.inj hstack
          have hout := feed_balanced lines (⟨previous, false⟩ :: inner) hw.2 rfl hrest
          exact hout
      | @otherwise _ previous _ _ _ mark =>
          rw [mark] at hw
          obtain ⟨frame, inner, rfl⟩ := List.exists_cons_of_length_pos hw.1
          obtain ⟨rfl, rfl⟩ := List.cons.inj hstack
          exact feed_balanced lines (⟨previous, false⟩ :: inner) hw.2 rfl hrest
      | closing mark =>
          rw [mark] at hw
          obtain ⟨frame, inner, rfl⟩ := List.exists_cons_of_length_pos hw.1
          obtain ⟨rfl, rfl⟩ := List.cons.inj hstack
          exact feed_balanced lines inner hw.2 rfl hrest

/-! ### Documents -/

/-- The evaluations that are made for the lines of a document, in order, and what came of them. -/
def evaluations (evaluate : Text → Run ε Bool) (lines : List Line) (c : ε) :
    List (Text × Except Fault Bool) :=
  ((judge (recorded evaluate) lines).run ({}, (c, []))).state.2.2

/-- An outline with the evaluator's answers holds the evaluations that are made. -/
theorem evaluations_eq {outline : Outline} {c c' : ε} (h : Evaluates evaluate c outline.asked c') :
    evaluations evaluate outline.lines c = outline.asked.map fun q => (q.1, .ok q.2) := by
  have hrecorded : Evaluates (recorded evaluate) (c, []) outline.asked (c', _) :=
    evaluates_recorded.2 ⟨h, rfl⟩
  have hjudge : (judge (recorded evaluate) outline.lines).Ends ({}, (c, [])) _ ({}, (c', _)) :=
    ends_judge_ok.2 ⟨outline.ends_feed hrecorded, rfl⟩
  unfold evaluations
  rw [hjudge.2]
  rfl

/-- Well nested lines all of whose evaluations succeed are those of an outline. -/
theorem exists_outline {c : ε} (hw : WellNested 0 lines)
    (he : ∀ q ∈ evaluations evaluate lines c, ∃ answer, q.2 = .ok answer) :
    ∃ (outline : Outline) (c' : ε), outline.lines = lines ∧
      Evaluates evaluate c outline.asked c' := by
  have hsettles : Settles evaluate lines ({}, (c, [])) := settles_of_wellNested hw
  rcases hsettles with ⟨flags, s, hfeed, hstack⟩ | ⟨fault, s, hfeed, condition, hmem⟩
  · obtain ⟨outline, ⟨c', record⟩, hlines, -, hasked⟩ :=
      ends_judge_iff.1 ⟨s, ends_judge_ok.2 ⟨hfeed, hstack⟩⟩
    exact ⟨outline, c', hlines, (evaluates_recorded.1 hasked).1⟩
  · have hjudge : (judge (recorded evaluate) lines).Ends ({}, (c, [])) (.error fault) s :=
      hfeed.bind_error
    have hmade : (condition, .error fault) ∈ evaluations evaluate lines c := by
      unfold evaluations
      rw [hjudge.2]
      exact hmem
    obtain ⟨answer, hanswer⟩ := he _ hmade
    cases hanswer

/-- The outline of a document is found from the evaluations that are made. -/
theorem result_judge_iff {flags : List Bool} {c : ε} :
    ((judge evaluate lines).run ({}, c)).result = .ok flags ↔
      ∃ outline : Outline, outline.lines = lines ∧ outline.kept true = flags ∧
        outline.asked.map (fun q => (q.1, .ok q.2)) = evaluations evaluate lines c := by
  constructor
  · intro h
    obtain ⟨outline, c', rfl, hkept, hasked⟩ := ends_judge_iff.1 ⟨_, h, rfl⟩
    exact ⟨outline, rfl, hkept, (evaluations_eq hasked).symm⟩
  · rintro ⟨outline, rfl, rfl, hmade⟩
    have hok : ∀ q ∈ evaluations evaluate outline.lines c, ∃ answer, q.2 = .ok answer := by
      rw [← hmade]
      exact fun q hq => ok_of_mem_map hq
    obtain ⟨outline', c', hlines, hasked⟩ := exists_outline outline.wellNested hok
    -- both outlines hold the evaluations that are made, so the same answers
    have hsame : outline'.asked = outline.asked := by
      refine List.map_injective_iff.2 ?_ ((evaluations_eq hasked).symm.trans (hlines ▸ hmade.symm))
      rintro ⟨condition, answer⟩ ⟨condition', answer'⟩ h
      cases h
      rfl
    obtain ⟨s, h⟩ := ends_judge_iff.2 ⟨outline, c', rfl, rfl, hsame ▸ hasked⟩
    exact h.1

/-- What comes of a run of lines in which every conditional is closed. -/
theorem feed_segment {before segment after : List Line} {flags : List Bool} {c : ε}
    {s : Conditions × ε} (hw : WellNested 0 segment)
    (h : (feed evaluate (before ++ segment ++ after)).Ends ({}, c) (.ok flags) s) :
    ((feed evaluate (before ++ segment)).run ({}, c)).state.1 =
      ((feed evaluate before).run ({}, c)).state.1 := by
  obtain ⟨_, _, s₂, _, h₂, _⟩ := of_ends_feed_append h
  obtain ⟨_, _, ⟨⟨here, stack⟩, c₁⟩, _, hbefore, hsegment⟩ := of_ends_feed_append h₂
  rw [h₂.2, hbefore.2]
  exact feed_balanced segment [] hw rfl hsegment

/-- **Conditions are nested branches.** A document ends well if and only if its directives are well
nested and no evaluation that is made fails. If it does, its lines are those of an outline that holds
the evaluations that were made, all of them and in order, and the lines kept are those the outline
keeps; there is no other such outcome. And then every balanced run of lines in it, such as a
conditional from its `if` to its `end`, leaves the conditions as they were before it. -/
theorem judge_iff_branches (evaluate : Text → Run ε Bool) (lines : List Line) (c : ε) :
    ((∃ flags, ((judge evaluate lines).run ({}, c)).result = .ok flags) ↔
      WellNested 0 lines ∧ ∀ q ∈ evaluations evaluate lines c, ∃ answer, q.2 = .ok answer) ∧
    (∀ flags, ((judge evaluate lines).run ({}, c)).result = .ok flags ↔
      ∃ outline : Outline, outline.lines = lines ∧ outline.kept true = flags ∧
        outline.asked.map (fun q => (q.1, .ok q.2)) = evaluations evaluate lines c) ∧
    ((∃ flags, ((judge evaluate lines).run ({}, c)).result = .ok flags) →
      ∀ before segment after, lines = before ++ segment ++ after → WellNested 0 segment →
        ((feed evaluate (before ++ segment)).run ({}, c)).state.1 =
          ((feed evaluate before).run ({}, c)).state.1) := by
  refine ⟨⟨?_, ?_⟩, fun flags => result_judge_iff, ?_⟩
  · rintro ⟨flags, h⟩
    obtain ⟨outline, rfl, -, hmade⟩ := result_judge_iff.1 h
    refine ⟨outline.wellNested, ?_⟩
    rw [← hmade]
    exact fun q hq => ok_of_mem_map hq
  · rintro ⟨hw, hok⟩
    obtain ⟨outline, c', hlines, hasked⟩ := exists_outline hw hok
    obtain ⟨s, h⟩ := ends_judge_iff.2 ⟨outline, c', hlines, rfl, hasked⟩
    exact ⟨_, h.1⟩
  · rintro ⟨flags, h⟩ before segment after rfl hw
    exact feed_segment hw (ends_judge_ok.1 ⟨h, rfl⟩).1

/-- A true `if` inside a branch that is not selected: its line is kept, and its `end` puts back what
held before. -/
theorem judge_true_in_unselected :
    let evaluate : Text → Run Nat Bool := fun condition n => ⟨.ok (condition == ['y']), n + 1, []⟩
    let before : List Line := [⟨"! if n\n".toList, none, 1⟩, ⟨"a\n".toList, none, 2⟩]
    let segment : List Line :=
      [⟨"! if y\n".toList, none, 3⟩, ⟨"b\n".toList, none, 4⟩, ⟨"! end\n".toList, none, 5⟩]
    let after : List Line := [⟨"! elsif y\n".toList, none, 6⟩, ⟨"c\n".toList, none, 7⟩,
      ⟨"! else\n".toList, none, 8⟩, ⟨"d\n".toList, none, 9⟩, ⟨"! end\n".toList, none, 10⟩]
    ((judge evaluate (before ++ segment ++ after)).run ({}, 0)).result =
      .ok [false, false, false, true, false, false, true, false, false, false] ∧
    ((feed evaluate (before ++ segment)).run ({}, 0)).state.1 =
      ((feed evaluate before).run ({}, 0)).state.1 := by
  intro evaluate before segment after
  let inner : Outline := .conditional ⟨"! if y\n".toList, none, 3⟩ ['y'] rfl true
    (.line ⟨"b\n".toList, none, 4⟩ rfl .nil) (.closing ⟨"! end\n".toList, none, 5⟩ rfl) .nil
  let outline : Outline := .conditional ⟨"! if n\n".toList, none, 1⟩ ['n'] rfl false
    (.line ⟨"a\n".toList, none, 2⟩ rfl inner)
    (.elsif ⟨"! elsif y\n".toList, none, 6⟩ ['y'] rfl true
      (.line ⟨"c\n".toList, none, 7⟩ rfl .nil)
      (.otherwise ⟨"! else\n".toList, none, 8⟩ rfl
        (.line ⟨"d\n".toList, none, 9⟩ rfl .nil) (.closing ⟨"! end\n".toList, none, 10⟩ rfl)))
    .nil
  obtain ⟨-, hflags, hsegments⟩ := judge_iff_branches evaluate (before ++ segment ++ after) 0
  have hasked : Evaluates evaluate 0 outline.asked 3 :=
    .cons ⟨rfl, rfl⟩ (.cons ⟨rfl, rfl⟩ (.cons ⟨rfl, rfl⟩ (.nil 3)))
  have hresult := (hflags _).2 ⟨outline, rfl, rfl, (evaluations_eq hasked).symm⟩
  exact ⟨hresult, hsegments ⟨_, hresult⟩ before segment after rfl inner.wellNested⟩

end Conditions

end Literate
