import Mathlib
import Literate.Extension
import Literate.Proofs.FileTrees

/-! # What a tangler writes

A tangler can be used again and again: its document is tangled, written and tangled once more, while the
files and the context change in between (`Event`). Each run of `tangle` gets to one of three points
(`Attempt`): it fails before the hook has given a root, it fails after that, or it completes. The fields
of a tangler are set at different points of a run, but they always reflect the runs made so far
(`Reflects`): the document counts as tangled once a run has completed, and the root is what the last run
that came past the hook has left.

So what is written is the result of a completed run, unless a run that broke behind the hook came after
it (`write_standing`). Then the document still counts as tangled, and the root of the broken run is
written without having been expanded (`write_unexpanded`).

None of this depends on the language of the extension code: the engine and its hook are arbitrary. -/

namespace Literate

namespace Tangler

open Run

variable {ε ι α β : Type} {engine : Engine ε ι α} {settings : Settings} {stack : Nat}
variable {tree : FileTree} {t t' : Tangler ε ι α}

/-! ### One run -/

/-- The stages up to the hook, if there is room for all stages. -/
def gather (engine : Engine ε ι α) (settings : Settings) (stack : Nat) (tree : FileTree) :
    Run (Tangler ε ι α) α :=
  (read engine.toEvaluator settings (stack + 1) tree >>= adjust engine).withRoom settings stack

theorem ends_tangle_iff {r : Except Fault (Option (List ι))} :
    (tangle engine settings stack tree).Ends t r t' ↔
      (gather engine settings stack tree >>= finish engine settings (stack + 1)).Ends t r t' := by
  rw [tangle, ends_get_bind, ends_progress_bind]
  unfold gather
  by_cases hfits : settings.Fits stack
  · rw [withRoom_of_fits hfits, withRoom_of_fits hfits, bind_assoc]
    rfl
  · rw [withRoom_of_not_fits hfits, withRoom_of_not_fits hfits]
    rfl

/-- How far a run of `tangle` gets. -/
inductive Attempt (ι α : Type) where
  /-- It fails before the hook has given a root. -/
  | early
  /-- It fails in the expansion of the root that the hook has given. -/
  | broken (assembly : α)
  | completed (result : Option (List ι))

/-- How far the run from a tangler gets. -/
def attempt (engine : Engine ε ι α) (settings : Settings) (stack : Nat) (tree : FileTree)
    (t : Tangler ε ι α) : Attempt ι α :=
  match (gather engine settings stack tree).run t with
  | ⟨.error _, _, _⟩ => .early
  | ⟨.ok assembly, t', _⟩ =>
    match ((finish engine settings (stack + 1) assembly).run t').result with
    | .error _ => .broken assembly
    | .ok result => .completed result

namespace Attempt

/-- The root that an attempt leaves. -/
def root : Attempt ι α → Root ι α
  | .early => .absent
  | .broken assembly => .adjusted assembly
  | .completed result => .ofResult result

/-- Whether the hook has given a root. -/
def isPast : Attempt ι α → Bool
  | .early => false
  | _ => true

def isCompleted : Attempt ι α → Bool
  | .completed _ => true
  | _ => false

end Attempt

/-- What tells how far the runs of a tangler got. -/
def progressOf (t : Tangler ε ι α) : Root ι α × Bool := (t.root, t.tangled)

theorem keeps_inSearch (x : Run Search β) :
    (inSearch x : Run (Tangler ε ι α) β).Keeps progressOf := fun _ => rfl

theorem keeps_inContext (x : Run ε β) : (inContext x : Run (Tangler ε ι α) β).Keeps progressOf :=
  fun _ => rfl

theorem keeps_read (evaluator : Evaluator ε) (settings : Settings) (stack : Nat) (tree : FileTree) :
    (read evaluator settings stack tree : Run (Tangler ε ι α) Block.Bodies).Keeps progressOf := by
  have hresolve : (resolve settings stack tree : Run (Tangler ε ι α) (List Line)).Keeps progressOf :=
    keeps_get.bind fun _ => (keeps_inSearch _).bind fun _ => keeps_get.bind fun _ =>
      (keeps_progress _ _).bind fun _ => keeps_pure _
  exact (hresolve.bind fun _ => keeps_inContext _).bind fun _ =>
    (keeps_ofExcept _).bind fun _ => (keeps_progress _ _).bind fun _ => keeps_pure _

theorem keeps_gather (engine : Engine ε ι α) (settings : Settings) (stack : Nat) (tree : FileTree) :
    (gather engine settings stack tree).Keeps progressOf :=
  ((keeps_read _ _ _ _).bind fun _ => keeps_inContext _).withRoom _ _

theorem ends_inContext {x : Run ε β} {r : Except Fault β} {c : ε} (h : x.Ends t.context r c) :
    (inContext x).Ends t r { t with context := c } :=
  Ends.zoom Tangler.context (fun context t => { t with context }) t h

/-- Nothing can go wrong behind a hook that leaves no root. -/
theorem ends_expand_of_absent {c : ε} {assembly : α} (h : engine.root? c assembly = none) :
    (expand engine settings stack assembly).Ends c (.ok none) c := by
  rw [expand, ends_get_bind, h]
  exact ends_pure none c

theorem ends_finish {assembly : α} {result : Option (List ι)} {c : ε}
    (h : (expand engine settings stack assembly).Ends t.context (.ok result) c) :
    (finish engine settings stack assembly).Ends t (.ok result)
      (keepResult result { keepRoot engine assembly t with context := c }) :=
  (ends_modify (keepRoot engine assembly) t).bind
    ((ends_inContext (t := keepRoot engine assembly t) h).bind
      ((ends_modify (keepResult result) _).bind (ends_pure result _)))

theorem ends_finish_error {assembly : α} {fault : Fault} {c : ε}
    (h : (expand engine settings stack assembly).Ends t.context (.error fault) c) :
    (finish engine settings stack assembly).Ends t (.error fault)
      { keepRoot engine assembly t with context := c } :=
  (ends_modify (keepRoot engine assembly) t).bind
    (ends_inContext (t := keepRoot engine assembly t) h).bind_error

/-- A run behind the hook sets the root at once, and the mark only at its end. -/
theorem finish_cases (engine : Engine ε ι α) (settings : Settings) (stack : Nat) (assembly : α)
    (t : Tangler ε ι α) :
    (∃ result t', (finish engine settings stack assembly).Ends t (.ok result) t' ∧
      t'.root = .ofResult result ∧ t'.tangled = true) ∨
    ∃ fault t', (finish engine settings stack assembly).Ends t (.error fault) t' ∧
      t'.root = .adjusted assembly ∧ t'.tangled = t.tangled := by
  rcases (expand engine settings stack assembly).ends_cases t.context with
    ⟨result, c, hexpand⟩ | ⟨fault, c, hexpand⟩
  · exact .inl ⟨result, _, ends_finish hexpand, rfl, rfl⟩
  · refine .inr ⟨fault, _, ends_finish_error hexpand, ?_, rfl⟩
    cases hfound : engine.root? t.context assembly with
    | none => cases (hexpand.unique (ends_expand_of_absent hfound)).1
    | some body => simp [keepRoot, Root.ofHook, hfound]

/-- What a run can do: it gets as far as its attempt says, and its result, the root and the mark that it
leaves go with that. -/
theorem tangle_cases (engine : Engine ε ι α) (settings : Settings) (stack : Nat) (tree : FileTree)
    (t : Tangler ε ι α) :
    (∃ fault t', attempt engine settings stack tree t = .early ∧
      (tangle engine settings stack tree).Ends t (.error fault) t' ∧
      t'.root = t.root ∧ t'.tangled = t.tangled) ∨
    (∃ assembly fault t', attempt engine settings stack tree t = .broken assembly ∧
      (tangle engine settings stack tree).Ends t (.error fault) t' ∧
      t'.root = .adjusted assembly ∧ t'.tangled = t.tangled) ∨
    ∃ result t', attempt engine settings stack tree t = .completed result ∧
      (tangle engine settings stack tree).Ends t (.ok result) t' ∧
      t'.root = .ofResult result ∧ t'.tangled = true := by
  have hkeeps := Prod.mk.inj (keeps_gather engine settings stack tree t)
  have hself := (gather engine settings stack tree).ends_self t
  simp only [ends_tangle_iff]
  unfold attempt
  generalize (gather engine settings stack tree).run t = out at hkeeps hself ⊢
  obtain ⟨result, t₁, log⟩ := out
  cases result with
  | error fault => exact .inl ⟨fault, t₁, rfl, hself.bind_error, hkeeps⟩
  | ok assembly =>
      rcases finish_cases engine settings (stack + 1) assembly t₁ with
        ⟨result, t', h, hroot⟩ | ⟨fault, t', h, hroot, hmark⟩
      · refine .inr (.inr ⟨result, t', ?_, hself.bind h, hroot⟩)
        dsimp only
        rw [h.1]
      · refine .inr (.inl ⟨assembly, fault, t', ?_, hself.bind h, hroot, hmark.trans hkeeps.2⟩)
        dsimp only
        rw [h.1]

theorem attempt_eq_completed {result : Option (List ι)} :
    attempt engine settings stack tree t = .completed result ↔
      ((tangle engine settings stack tree).run t).result = .ok result := by
  rcases tangle_cases engine settings stack tree t with
    ⟨fault, t', ha, h, -⟩ | ⟨assembly, fault, t', ha, h, -⟩ | ⟨result', t', ha, h, -⟩
  all_goals rw [ha, h.1]; simp

/-! ### Writing -/

section Write

variable {path : Path} {r : Except Fault Bool} {s' : Tangler ε ι α × FileTree}

/-- Writing tangles the document first, unless that has been done. -/
theorem write_eq (engine : Engine ε ι α) (settings : Settings) (stack : Nat) (path : Path) :
    write engine settings stack path = Run.get >>= fun s =>
      if s.1.tangled then emit engine path
      else (tangle engine settings (stack + 1) s.2).onFirst >>= fun _ => emit engine path := by
  refine congrArg (Run.get >>= ·) (funext fun s => ?_)
  obtain ⟨⟨input, context, search, root, assembly, tangled⟩, tree⟩ := s
  cases tangled with
  | true => rfl
  | false => rfl

theorem ends_write_of_tangled (h : t.tangled = true) :
    (write engine settings stack path).Ends (t, tree) r s' ↔
      (emit engine path).Ends (t, tree) r s' := by
  rw [write_eq, ends_get_bind]
  dsimp only
  rw [if_pos h]

theorem ends_write_of_not_tangled (h : t.tangled = false) :
    (write engine settings stack path).Ends (t, tree) r s' ↔
      ((tangle engine settings (stack + 1) tree).onFirst >>= fun _ => emit engine path).Ends
        (t, tree) r s' := by
  rw [write_eq, ends_get_bind]
  dsimp only
  rw [if_neg (by simp [h])]

theorem keeps_emit (engine : Engine ε ι α) (path : Path) : (emit engine path).Keeps Prod.fst := by
  refine keeps_get.bind fun s => ?_
  dsimp only
  split
  · exact (keeps_progress _ _).bind fun _ => keeps_pure _
  · exact (keeps_onSecond _).bind fun _ => keeps_pure _

/-- Writing some lines puts their texts into a file, joined. -/
def Puts (engine : Engine ε ι α) (c : ε) (lines : List ι) (path : Path) (tree tree' : FileTree) : Prop :=
  ∃ texts : List Text, lines.map (engine.written c) = texts.map .ok ∧
    tree.write path texts.flatten = .ok tree'

/-- Where writing the root ends in `true`, its lines are there and have come into the file. -/
theorem of_ends_emit (h : (emit engine path).Ends (t, tree) (.ok true) s') :
    s'.1 = t ∧ ((∃ lines, t.root = .expanded lines ∧ Puts engine t.context lines path tree s'.2) ∨
      ∃ assembly lines, t.root = .adjusted assembly ∧ engine.lines t.context assembly = .ok lines ∧
        Puts engine t.context lines path tree s'.2) := by
  have hkept : s'.1 = t := by
    rw [← h.2]
    exact keeps_emit engine path (t, tree)
  have hwritten {texts : List (Except Failure Text)} (hwrite : ((writeTexts path texts).onSecond >>=
      fun _ => pure true).Ends (t, tree) (.ok true) s') :
      ∃ sound : List Text, texts = sound.map .ok ∧ tree.write path sound.flatten = .ok s'.2 := by
    obtain ⟨_, s₁, hwrite, h⟩ := ends_bind_ok.1 hwrite
    obtain rfl := (ends_pure_iff.1 h).2
    refine ⟨_, ends_writeTexts_ok_iff.1 ⟨hwrite.1, ?_⟩⟩
    rw [← hwrite.2]
    rfl
  refine ⟨hkept, ?_⟩
  rw [emit, ends_get_bind] at h
  dsimp only at h
  cases hroot : t.root with
  | absent =>
      rw [hroot, Root.texts?, ends_progress_bind] at h
      cases (ends_pure_iff.1 h).1
  | expanded lines =>
      rw [hroot] at h
      obtain ⟨texts, htexts, hwrite⟩ := hwritten h
      exact .inl ⟨lines, rfl, texts, htexts, hwrite⟩
  | adjusted assembly =>
      rw [hroot, Root.texts?] at h
      cases hlines : engine.lines t.context assembly with
      | error failure =>
          rw [hlines] at h
          obtain ⟨texts, htexts, -⟩ := hwritten h
          cases texts with
          | nil => cases htexts
          | cons => cases (List.cons.inj htexts).1
      | ok lines =>
          rw [hlines] at h
          obtain ⟨texts, htexts, hwrite⟩ := hwritten h
          exact .inr ⟨assembly, lines, rfl, hlines, texts, htexts, hwrite⟩

/-- After a run that has ended in a result, it is the lines of that result that are written. -/
theorem of_ends_emit_result {result : Option (List ι)} (hroot : t.root = .ofResult result)
    (h : (emit engine path).Ends (t, tree) (.ok true) s') :
    ∃ lines, result = some lines ∧ Puts engine s'.1.context lines path tree s'.2 := by
  obtain ⟨hkept, ⟨lines, hlines, hputs⟩ | ⟨assembly, lines, hadjusted, -⟩⟩ := of_ends_emit h
  · cases result with
    | none => cases hroot.symm.trans hlines
    | some lines' =>
        obtain rfl := Root.expanded.inj (hroot.symm.trans hlines)
        exact ⟨lines', rfl, hkept ▸ hputs⟩
  · cases result with
    | none => cases hroot.symm.trans hadjusted
    | some lines' => cases hroot.symm.trans hadjusted

end Write

/-! ### Sessions -/

/-- What can happen to a tangler and to the files around it. -/
inductive Event (ε : Type) where
  | tangle (stack : Nat)
  | write (stack : Nat) (path : Path)
  /-- Other files, and another state of the context. -/
  | change (tree : FileTree) (context : ε)

/-- The tangler and the files after an event. -/
def step (engine : Engine ε ι α) (settings : Settings) (s : Tangler ε ι α × FileTree) :
    Event ε → Tangler ε ι α × FileTree
  | .tangle stack => (((tangle engine settings stack s.2).run s.1).state, s.2)
  | .write stack path => ((write engine settings stack path).run s).state
  | .change tree context => ({ s.1 with context }, tree)

/-- Where a run of `tangle` starts. -/
structure Start (ε ι α : Type) where
  stack : Nat
  tangler : Tangler ε ι α
  tree : FileTree

/-- What the run that starts there ends in. -/
def Start.result (engine : Engine ε ι α) (settings : Settings) (u : Start ε ι α) :
    Except Fault (Option (List ι)) :=
  ((tangle engine settings u.stack u.tree).run u.tangler).result

/-- The runs of `tangle` that an event starts: writing starts one if the document does not count as
tangled. -/
def starts (s : Tangler ε ι α × FileTree) : Event ε → List (Start ε ι α)
  | .tangle stack => [⟨stack, s.1, s.2⟩]
  | .write stack _ => if s.1.tangled then [] else [⟨stack + 1, s.1, s.2⟩]
  | .change _ _ => []

/-- The tangler and the files after a history. -/
def play (engine : Engine ε ι α) (settings : Settings) (s : Tangler ε ι α × FileTree)
    (history : List (Event ε)) : Tangler ε ι α × FileTree :=
  history.foldl (step engine settings) s

/-- Where a history starts runs of `tangle`, the oldest first. -/
def allStarts (engine : Engine ε ι α) (settings : Settings) :
    Tangler ε ι α × FileTree → List (Event ε) → List (Start ε ι α)
  | _, [] => []
  | s, event :: rest => starts s event ++ allStarts engine settings (step engine settings s event) rest

/-- How far the runs that start there get. -/
def attempts (engine : Engine ε ι α) (settings : Settings) (places : List (Start ε ι α)) :
    List (Attempt ι α) :=
  places.map fun u => attempt engine settings u.stack u.tree u.tangler

/-- The last run that came past the hook. -/
def standing (runs : List (Attempt ι α)) : Option (Attempt ι α) :=
  (runs.filter Attempt.isPast).getLast?

theorem standing_concat (runs : List (Attempt ι α)) (a : Attempt ι α) :
    standing (runs ++ [a]) = if a.isPast then some a else standing runs := by
  unfold standing
  rw [List.filter_append]
  cases h : a.isPast with
  | true => simp [h]
  | false => simp [h]

/-- The fields of a tangler tell what has become of its runs. -/
structure Reflects (runs : List (Attempt ι α)) (t : Tangler ε ι α) : Prop where
  tangled : t.tangled = runs.any Attempt.isCompleted
  root : t.root = ((standing runs).map Attempt.root).getD .absent

section Reflects

variable {runs : List (Attempt ι α)}

theorem reflects_tangle (engine : Engine ε ι α) (settings : Settings) (stack : Nat) (tree : FileTree)
    (h : Reflects runs t) : Reflects (runs ++ [attempt engine settings stack tree t])
      ((tangle engine settings stack tree).run t).state := by
  rcases tangle_cases engine settings stack tree t with ⟨fault, t', ha, hends, hroot, hmark⟩ |
    ⟨assembly, fault, t', ha, hends, hroot, hmark⟩ | ⟨result, t', ha, hends, hroot, hmark⟩
  all_goals rw [ha, hends.2]
  · refine ⟨?_, ?_⟩
    · simp [hmark, h.tangled, Attempt.isCompleted]
    · rw [hroot, h.root, standing_concat]
      rfl
  · refine ⟨?_, ?_⟩
    · simp [hmark, h.tangled, Attempt.isCompleted]
    · rw [hroot, standing_concat]
      rfl
  · refine ⟨?_, ?_⟩
    · simp [hmark, Attempt.isCompleted]
    · rw [hroot, standing_concat]
      rfl

/-- The tangler after writing: a run has been made, or nothing has changed. -/
theorem fst_write (engine : Engine ε ι α) (settings : Settings) (stack : Nat) (path : Path)
    (t : Tangler ε ι α) (tree : FileTree) :
    ((write engine settings stack path).run (t, tree)).state.1 =
      if t.tangled then t else ((tangle engine settings (stack + 1) tree).run t).state := by
  have hself := (write engine settings stack path).ends_self (t, tree)
  cases htangled : t.tangled with
  | true =>
      rw [← ((ends_write_of_tangled htangled).1 hself).2]
      exact keeps_emit engine path (t, tree)
  | false =>
      have hruns := (ends_write_of_not_tangled htangled).1 hself
      rw [if_neg (by simp), ← hruns.2]
      rcases (tangle engine settings (stack + 1) tree).ends_cases t with
        ⟨result, t', h⟩ | ⟨fault, t', h⟩
      · rw [(h.onFirst.bind ((emit engine path).ends_self (t', tree))).2, h.2]
        exact keeps_emit engine path (t', tree)
      · rw [h.onFirst.bind_error.2, h.2]

theorem reflects_step {s : Tangler ε ι α × FileTree} (h : Reflects runs s.1) (event : Event ε) :
    Reflects (runs ++ attempts engine settings (starts s event)) (step engine settings s event).1 := by
  cases event with
  | tangle stack => exact reflects_tangle engine settings stack s.2 h
  | change tree context =>
      have hnone : runs ++ attempts engine settings (starts s (.change tree context)) = runs :=
        List.append_nil runs
      rw [hnone]
      exact ⟨h.tangled, h.root⟩
  | write stack path =>
      unfold starts step
      dsimp only
      rw [fst_write]
      split
      · rw [attempts, List.map_nil, List.append_nil]
        exact h
      · exact reflects_tangle engine settings (stack + 1) s.2 h

theorem reflects_play (history : List (Event ε)) {s : Tangler ε ι α × FileTree}
    (h : Reflects runs s.1) :
    Reflects (runs ++ attempts engine settings (allStarts engine settings s history))
      (play engine settings s history).1 := by
  induction history generalizing runs s with
  | nil =>
      rw [allStarts, attempts, List.map_nil, List.append_nil]
      exact h
  | cons event rest ih =>
      rw [allStarts, attempts, List.map_append, ← List.append_assoc]
      exact ih (reflects_step h event)

theorem allStarts_concat (engine : Engine ε ι α) (settings : Settings) (event : Event ε)
    (history : List (Event ε)) (s : Tangler ε ι α × FileTree) :
    allStarts engine settings s (history ++ [event]) =
      allStarts engine settings s history ++ starts (play engine settings s history) event := by
  induction history generalizing s with
  | nil => simp [allStarts, play]
  | cons first rest ih =>
      rw [List.cons_append, allStarts, allStarts, ih, List.append_assoc]
      rfl

theorem exists_start_of_standing {places : List (Start ε ι α)} {result : Option (List ι)}
    (h : standing (attempts engine settings places) = some (.completed result)) :
    ∃ u ∈ places, u.result engine settings = .ok result := by
  have hmem := List.mem_of_mem_filter (List.mem_of_getLast? h)
  obtain ⟨u, hu, hattempt⟩ := List.mem_map.1 hmem
  exact ⟨u, hu, attempt_eq_completed.1 hattempt⟩

/-- What is in the file after a document that counts as tangled has been written. -/
theorem of_ends_emit_reflects {path : Path} {s' : Tangler ε ι α × FileTree}
    (hreflects : Reflects runs t) (htangled : t.tangled = true)
    (h : (emit engine path).Ends (t, tree) (.ok true) s') :
    (∃ lines, standing runs = some (.completed (some lines)) ∧
      Puts engine s'.1.context lines path tree s'.2) ∨
    ∃ assembly lines, standing runs = some (.broken assembly) ∧
      (∃ result, .completed result ∈ runs) ∧ engine.lines s'.1.context assembly = .ok lines ∧
      Puts engine s'.1.context lines path tree s'.2 := by
  obtain ⟨hkept, hfound⟩ := of_ends_emit h
  have hroot := hreflects.root
  cases hstanding : standing runs with
  | none =>
      rw [hstanding] at hroot
      rw [hroot] at hfound
      simp at hfound
  | some a =>
      rw [hstanding, Option.map_some, Option.getD_some] at hroot
      cases a with
      | early =>
          rw [hroot] at hfound
          simp [Attempt.root] at hfound
      | completed result =>
          obtain ⟨lines, rfl, hputs⟩ := of_ends_emit_result hroot h
          exact .inl ⟨lines, rfl, hputs⟩
      | broken assembly =>
          have hany := htangled.symm.trans hreflects.tangled
          obtain ⟨a, ha, hcompleted⟩ := List.any_eq_true.1 hany.symm
          cases a with
          | early => cases hcompleted
          | broken _ => cases hcompleted
          | completed result =>
              rcases hfound with ⟨lines, hlines, -⟩ | ⟨assembly', lines, hadjusted, hlines, hputs⟩
              · cases hroot.symm.trans hlines
              · obtain rfl := Root.adjusted.inj (hroot.symm.trans hadjusted)
                rw [hkept]
                exact .inr ⟨assembly, lines, rfl, ⟨result, ha⟩, hlines, hputs⟩

end Reflects

/-- **What is written stands.** Whatever has been done with a tangler, if writing ends in `true` then the
lines that a run has ended in are in the file, joined; except where a run broke behind the hook after
all that have completed. Then the root that the hook has given in that run is written, unexpanded. -/
theorem write_standing (engine : Engine ε ι α) (settings : Settings) (input : Path) (context : ε)
    (search : Search) (tree : FileTree) (history : List (Event ε)) (stack : Nat) (path : Path)
    {s' : Tangler ε ι α × FileTree}
    (h : (write engine settings stack path).Ends
      (play engine settings ({ input, context, search }, tree) history) (.ok true) s') :
    let s := play engine settings ({ input, context, search }, tree) history
    let places := allStarts engine settings ({ input, context, search }, tree)
      (history ++ [.write stack path])
    (∃ u ∈ places, ∃ lines, u.result engine settings = .ok (some lines) ∧
      Puts engine s'.1.context lines path s.2 s'.2) ∨
    ∃ assembly lines, standing (attempts engine settings places) = some (.broken assembly) ∧
      (∃ result, .completed result ∈ attempts engine settings places) ∧
      engine.lines s'.1.context assembly = .ok lines ∧
      Puts engine s'.1.context lines path s.2 s'.2 := by
  dsimp only
  have hreflects : Reflects
      (attempts engine settings (allStarts engine settings ({ input, context, search }, tree) history))
      (play engine settings ({ input, context, search }, tree) history).1 :=
    reflects_play history (⟨rfl, rfl⟩ : Reflects [] _)
  rw [allStarts_concat]
  generalize allStarts engine settings ({ input, context, search }, tree) history = earlier
    at hreflects ⊢
  generalize play engine settings ({ input, context, search }, tree) history = s at h hreflects ⊢
  obtain ⟨t, files⟩ := s
  cases htangled : t.tangled with
  | true =>
      have hnone : starts (t, files) (.write stack path) = [] := if_pos htangled
      rw [hnone, List.append_nil]
      have hemit := (ends_write_of_tangled htangled).1 h
      rcases of_ends_emit_reflects hreflects htangled hemit with ⟨lines, hlines, hwritten⟩ | hbroken
      · obtain ⟨u, hu, hresult⟩ := exists_start_of_standing hlines
        exact .inl ⟨u, hu, lines, hresult, hwritten⟩
      · exact .inr hbroken
  | false =>
      have hone : starts (t, files) (.write stack path) = [⟨stack + 1, t, files⟩] :=
        if_neg (by simp [htangled])
      obtain ⟨result, s, htangle, hemit⟩ := ends_bind_ok.1 ((ends_write_of_not_tangled htangled).1 h)
      rcases tangle_cases engine settings (stack + 1) files t with ⟨fault, t', -, hends, -⟩ |
        ⟨assembly, fault, t', -, hends, -⟩ | ⟨result', t', -, hends, hroot, -⟩
      · cases (hends.onFirst.unique htangle).1
      · cases (hends.onFirst.unique htangle).1
      · obtain rfl := (hends.onFirst.unique htangle).2
        obtain ⟨lines, rfl, hwritten⟩ := of_ends_emit_result hroot hemit
        exact .inl ⟨⟨stack + 1, t, files⟩, by simp [hone], lines, hends.1, hwritten⟩

/-- A run that broke, and one that failed before the hook, do no harm before the document has been
tangled. -/
theorem write_after_failures :
    let engine := Script.engine {}
    let broken : FileTree := ⟨[({ names := ["a".toList] }, .file (some "```\n⦅b⦆\n```\n".toList))]⟩
    let sound : FileTree := ⟨[({ names := ["a".toList] }, .file (some "```\nx\n```\n".toList))]⟩
    let context := Script.Context.fresh []
    let start : Tangler Script.Context Value Script.Assembly × FileTree :=
      ({ input := ⟨0, ["a".toList]⟩, context }, broken)
    let history := [.tangle 9, .change ⟨[]⟩ context, .tangle 9, .change sound context]
    let out : Path := ⟨0, ["o".toList]⟩
    let written := (write engine {} 9 out).run (play engine {} start history)
    written.result = .ok true ∧
      ∃ u ∈ allStarts engine {} start (history ++ [.write 9 out]), ∃ lines,
        u.result engine {} = .ok (some lines) ∧
        Puts engine written.state.1.context lines out sound written.state.2 := by
  intro engine broken sound context start history out written
  have hresult : written.result = .ok true := by decide +kernel
  have hstanding : (standing (attempts engine {} (allStarts engine {} start
      (history ++ [.write 9 out])))).map Attempt.isCompleted = some true := by decide +kernel
  refine ⟨hresult, ?_⟩
  have hfiles : (play engine {} start history).2 = sound := rfl
  have hwrite : (write engine {} 9 out).Ends (play engine {} start history) (.ok true) written.state :=
    ⟨hresult, rfl⟩
  rcases write_standing engine {} ⟨0, ["a".toList]⟩ context {} broken history 9 out hwrite with
    ⟨u, hu, lines, hlines, hwritten⟩ | ⟨_, _, hbroken, -⟩
  · refine ⟨u, hu, lines, hlines, ?_⟩
    rw [← hfiles]
    exact hwritten
  · rw [hbroken] at hstanding
    cases hstanding

/-- A document that has been tangled, changed and tangled again to no avail is written unexpanded. -/
theorem write_unexpanded :
    let engine := Script.engine {}
    let sound : FileTree := ⟨[({ names := ["a".toList] }, .file (some "```\nx\n```\n".toList))]⟩
    let broken : FileTree := ⟨[({ names := ["a".toList] }, .file (some "```\n⦅b⦆\n```\n".toList))]⟩
    let context := Script.Context.fresh []
    let start : Tangler Script.Context Value Script.Assembly × FileTree :=
      ({ input := ⟨0, ["a".toList]⟩, context }, sound)
    let history := [.tangle 9, .change broken context, .tangle 9]
    let out : Path := ⟨0, ["o".toList]⟩
    let written := (write engine {} 9 out).run (play engine {} start history)
    written.result = .ok true ∧ written.state.2.read out = .ok "⦅b⦆".toList ∧
      ∀ u ∈ allStarts engine {} start (history ++ [.write 9 out]), ∀ lines,
        u.result engine {} = .ok (some lines) →
          lines.map (engine.written written.state.1.context) ≠ [.ok "⦅b⦆".toList] := by
  intro engine sound broken context start history out written
  have hothers : (allStarts engine {} start (history ++ [.write 9 out])).all fun u =>
      (u.result engine {}).toOption.join.all fun lines =>
        lines.map (engine.written written.state.1.context) ≠ [.ok "⦅b⦆".toList] := by decide +kernel
  refine ⟨by decide +kernel, by decide +kernel, fun u hu lines hlines => ?_⟩
  have hother := List.all_eq_true.1 hothers u hu
  rw [hlines] at hother
  exact of_decide_eq_true hother

end Tangler
end Literate
