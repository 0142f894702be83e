import Mathlib
import Literate.Output
import Literate.Room

/-! # What runs end in

The laws of the monad of runs, and three ways to say what a run comes to, all of which leave the log
aside:

* `x.Ends s r s'`: started in `s`, the run `x` ends in `r` and leaves `s'`;
* `x.Means I r`: from every state of `I` the run `x` ends in `r` and leaves a state of `I`. As far as
  `I` can tell, such a run only computes, and what it computes does not depend on what ran before;
* `x.Keeps view`: whatever the run `x` ends in, what `view` shows of the state is what it was.

They go through the operations of the monad one by one (`Ends.bind`, `Means.bind`, `Keeps.bind`).
Before them stand the facts about results that are needed wherever a run over a list succeeds or
fails: it succeeds if every member does, and otherwise fails as the first member that does. -/

namespace Literate

/-! ### Results -/

namespace Result

variable {ε ε' α β : Type}

theorem bind_eq_ok {x : Except ε α} {f : α → Except ε β} {b : β} :
    x >>= f = .ok b ↔ ∃ a, x = .ok a ∧ f a = .ok b := by
  cases x with
  | error e => simp [bind, Except.bind]
  | ok a => simp [bind, Except.bind]

theorem bind_eq_error {x : Except ε α} {f : α → Except ε β} {e : ε} :
    x >>= f = .error e ↔ x = .error e ∨ ∃ a, x = .ok a ∧ f a = .error e := by
  cases x with
  | error e' => simp [bind, Except.bind]
  | ok a => simp [bind, Except.bind]

theorem mapError_eq_ok {x : Except ε α} {f : ε → ε'} {a : α} :
    x.mapError f = .ok a ↔ x = .ok a := by
  cases x <;> simp [Except.mapError]

theorem mapError_eq_error {x : Except ε α} {f : ε → ε'} {e' : ε'} :
    x.mapError f = .error e' ↔ ∃ e, x = .error e ∧ f e = e' := by
  cases x <;> simp [Except.mapError]

theorem mapM_eq_ok {f : α → Except ε β} : ∀ {l : List α} {r : List β},
    l.mapM f = .ok r ↔ List.Forall₂ (fun a b => f a = .ok b) l r
  | [], r => by
      rw [List.mapM_nil, List.forall₂_nil_left_iff]
      exact ⟨fun h => (Except.ok.inj h).symm, fun h => h ▸ rfl⟩
  | a :: l, r => by
      rw [List.mapM_cons, bind_eq_ok, List.forall₂_cons_left_iff]
      simp only [bind_eq_ok, mapM_eq_ok]
      constructor
      · rintro ⟨b, hb, bs, hbs, h⟩
        exact ⟨b, bs, hb, hbs, (Except.ok.inj h).symm⟩
      · rintro ⟨b, bs, hb, hbs, rfl⟩
        exact ⟨b, hb, bs, hbs, rfl⟩

theorem mapM_eq_error {f : α → Except ε β} {e : ε} : ∀ {l : List α},
    l.mapM f = .error e ↔ ∃ before a after, l = before ++ a :: after ∧
      (∀ b ∈ before, ∃ r, f b = .ok r) ∧ f a = .error e
  | [] => by simp [pure, Except.pure]
  | a :: l => by
      rw [List.mapM_cons]
      cases ha : f a with
      | error e' =>
          constructor
          · intro h
            cases h
            exact ⟨[], a, l, rfl, by simp, ha⟩
          · rintro ⟨before, b, after, hl, hbefore, hb⟩
            cases before with
            | nil =>
                obtain ⟨rfl, -⟩ := List.cons.inj hl
                cases ha.symm.trans hb
                rfl
            | cons c before =>
                obtain ⟨rfl, -⟩ := List.cons.inj hl
                obtain ⟨r, hr⟩ := hbefore a List.mem_cons_self
                rw [ha] at hr
                cases hr
      | ok b =>
          have hrest : (do
              let bs ← l.mapM f
              pure (b :: bs)) = .error e ↔ l.mapM f = .error e := by
            cases l.mapM f <;> simp [bind, Except.bind, pure, Except.pure]
          refine hrest.trans (mapM_eq_error.trans ?_)
          constructor
          · rintro ⟨before, c, after, rfl, hbefore, hc⟩
            refine ⟨a :: before, c, after, rfl, ?_, hc⟩
            intro x hx
            rcases List.mem_cons.1 hx with rfl | hx
            · exact ⟨b, ha⟩
            · exact hbefore x hx
          · rintro ⟨before, c, after, hl, hbefore, hc⟩
            cases before with
            | nil =>
                obtain ⟨rfl, -⟩ := List.cons.inj hl
                rw [ha] at hc
                cases hc
            | cons x before =>
                obtain ⟨-, hl⟩ := List.cons.inj hl
                exact ⟨before, c, after, hl,
                  fun y hy => hbefore y (List.mem_cons_of_mem _ hy), hc⟩

theorem exists_mapM_eq_ok {f : α → Except ε β} {l : List α} :
    (∃ r, l.mapM f = .ok r) ↔ ∀ a ∈ l, ∃ b, f a = .ok b := by
  constructor
  · rintro ⟨r, hr⟩
    rw [mapM_eq_ok] at hr
    induction hr with
    | nil => simp
    | cons hab _ ih => exact List.forall_mem_cons.2 ⟨⟨_, hab⟩, ih⟩
  · intro h
    cases hm : l.mapM f with
    | ok r => exact ⟨r, rfl⟩
    | error e =>
        obtain ⟨before, a, after, rfl, -, ha⟩ := mapM_eq_error.1 hm
        obtain ⟨b, hb⟩ := h a (by simp)
        rw [hb] at ha
        cases ha

end Result

namespace Run

variable {σ τ α β : Type}

/-! ### The laws of the monad -/

@[simp] theorem run_pure (a : α) (s : σ) : (pure a : Run σ α).run s = ⟨.ok a, s, []⟩ := rfl

theorem run_bind (x : Run σ α) (f : α → Run σ β) (s : σ) :
    (x >>= f).run s =
      match x.run s with
      | ⟨.ok a, s', log⟩ => { (f a).run s' with log := log ++ ((f a).run s').log }
      | ⟨.error fault, s', log⟩ => ⟨.error fault, s', log⟩ := rfl

theorem ext {x y : Run σ α} (h : ∀ s, x.run s = y.run s) : x = y := funext h

instance : LawfulMonad (Run σ) := LawfulMonad.mk' (Run σ)
  (by
    intro α x
    refine ext fun s => ?_
    show (x >>= fun a => pure (id a)).run s = x.run s
    rw [run_bind]
    obtain ⟨result, s', log⟩ := x.run s
    cases result <;> simp)
  (by
    intro α β a f
    refine ext fun s => ?_
    rw [run_bind]
    simp)
  (by
    intro α β γ x f g
    refine ext fun s => ?_
    simp only [run_bind]
    obtain ⟨result, s', log⟩ := x.run s
    cases result with
    | error fault => rfl
    | ok a =>
        dsimp only
        obtain ⟨result', s'', log'⟩ := (f a).run s'
        cases result' <;> simp)

/-! ### From one state -/

/-- Started in `s`, the run ends in `r` and leaves `s'`. -/
def Ends (x : Run σ α) (s : σ) (r : Except Fault α) (s' : σ) : Prop :=
  (x.run s).result = r ∧ (x.run s).state = s'

theorem ends_self (x : Run σ α) (s : σ) : x.Ends s (x.run s).result (x.run s).state := ⟨rfl, rfl⟩

theorem ends_pure (a : α) (s : σ) : (pure a : Run σ α).Ends s (.ok a) s := ⟨rfl, rfl⟩

theorem ends_fail (fault : Fault) (s : σ) : (fail fault : Run σ α).Ends s (.error fault) s :=
  ⟨rfl, rfl⟩

theorem ends_get (s : σ) : (get : Run σ σ).Ends s (.ok s) s := ⟨rfl, rfl⟩

theorem ends_get_bind {f : σ → Run σ β} {s s' : σ} {r : Except Fault β} :
    (get >>= f).Ends s r s' ↔ (f s).Ends s r s' := Iff.rfl

theorem ends_modify (f : σ → σ) (s : σ) : (modify f).Ends s (.ok ()) (f s) := ⟨rfl, rfl⟩

theorem ends_progress (level : Nat) (message : String) (s : σ) :
    (progress level message : Run σ Unit).Ends s (.ok ()) s := ⟨rfl, rfl⟩

theorem ends_progress_bind {level : Nat} {message : String} {f : Unit → Run σ β} {s s' : σ}
    {r : Except Fault β} : (progress level message >>= f).Ends s r s' ↔ (f ()).Ends s r s' := Iff.rfl

theorem ends_ofExcept (r : Except Fault α) (s : σ) : (ofExcept r : Run σ α).Ends s r s := by
  cases r with
  | error fault => exact ends_fail fault s
  | ok a => exact ends_pure a s

theorem Ends.bind {x : Run σ α} {f : α → Run σ β} {s s' s'' : σ} {a : α} {r : Except Fault β}
    (hx : x.Ends s (.ok a) s') (hf : (f a).Ends s' r s'') : (x >>= f).Ends s r s'' := by
  unfold Ends at *
  rw [run_bind]
  generalize x.run s = out at hx ⊢
  obtain ⟨result, t, log⟩ := out
  obtain ⟨rfl, rfl⟩ := hx
  exact hf

theorem Ends.bind_error {x : Run σ α} {f : α → Run σ β} {s s' : σ} {fault : Fault}
    (hx : x.Ends s (.error fault) s') : (x >>= f).Ends s (.error fault) s' := by
  unfold Ends at *
  rw [run_bind]
  generalize x.run s = out at hx ⊢
  obtain ⟨result, t, log⟩ := out
  obtain ⟨rfl, rfl⟩ := hx
  exact ⟨rfl, rfl⟩

theorem Ends.map {x : Run σ α} {f : α → β} {s s' : σ} {r : Except Fault α} (hx : x.Ends s r s') :
    (x >>= fun a => pure (f a)).Ends s (r.map f) s' := by
  cases r with
  | error fault => exact hx.bind_error
  | ok a => exact hx.bind (ends_pure (f a) s')

theorem Ends.mapFault {x : Run σ α} {f : Fault → Fault} {s s' : σ} {r : Except Fault α}
    (hx : x.Ends s r s') : (x.mapFault f).Ends s (r.mapError f) s' :=
  ⟨congrArg (Except.mapError f) hx.1, hx.2⟩

theorem Ends.zoom {x : Run τ α} {t : τ} {r : Except Fault α} (part : σ → τ)
    (update : τ → σ → σ) (s : σ) (hx : x.Ends (part s) r t) :
    (x.zoom part update).Ends s r (update t s) :=
  ⟨hx.1, congrArg (update · s) hx.2⟩

theorem Ends.onFirst {x : Run σ α} {s s' : σ} {t : τ} {r : Except Fault α} (hx : x.Ends s r s') :
    (x.onFirst : Run (σ × τ) α).Ends (s, t) r (s', t) :=
  Ends.zoom Prod.fst (fun s p => (s, p.2)) (s, t) hx

theorem Ends.onSecond {x : Run τ α} {s : σ} {t t' : τ} {r : Except Fault α} (hx : x.Ends t r t') :
    (x.onSecond : Run (σ × τ) α).Ends (s, t) r (s, t') :=
  Ends.zoom Prod.snd (fun s p => (p.1, s)) (s, t) hx

/-- Collecting one value for each member, without a change of state. -/
theorem ends_collect {f : α → Run σ (List β)} {g : α → β} {s : σ} : ∀ {l : List α},
    (∀ a ∈ l, (f a).Ends s (.ok [g a]) s) → (collect f l).Ends s (.ok (l.map g)) s
  | [], _ => ends_pure [] s
  | a :: l, h => by
      rw [List.forall_mem_cons] at h
      exact h.1.bind ((ends_collect h.2).bind (ends_pure _ s))

theorem collect_map {γ : Type} (f : β → Run σ (List γ)) (g : α → β) : ∀ l : List α,
    collect f (l.map g) = collect (fun a => f (g a)) l
  | [] => rfl
  | a :: l => by
      simp only [List.map_cons, collect, collect_map f g l]

theorem collect_append (f : α → Run σ (List β)) (m : List α) : ∀ l : List α,
    collect f (l ++ m) = (do
      let first ← collect f l
      let others ← collect f m
      pure (first ++ others))
  | [] => by simp [collect]
  | a :: l => by
      simp only [List.cons_append, collect, collect_append f m l, bind_assoc, pure_bind,
        List.append_assoc]

theorem ends_collect_self {f : α → Run σ (List α)} {s : σ} {l : List α}
    (h : ∀ a ∈ l, (f a).Ends s (.ok [a]) s) : (collect f l).Ends s (.ok l) s := by
  have hcollect := ends_collect (g := id) h
  rwa [List.map_id] at hcollect

theorem Ends.unique {x : Run σ α} {s s' s'' : σ} {r r' : Except Fault α}
    (h : x.Ends s r s') (h' : x.Ends s r' s'') : r = r' ∧ s' = s'' :=
  ⟨h.1.symm.trans h'.1, h.2.symm.trans h'.2⟩

theorem ends_cases (x : Run σ α) (s : σ) :
    (∃ a s', x.Ends s (.ok a) s') ∨ ∃ fault s', x.Ends s (.error fault) s' := by
  cases hx : (x.run s).result with
  | ok a => exact .inl ⟨a, _, hx, rfl⟩
  | error fault => exact .inr ⟨fault, _, hx, rfl⟩

theorem result_bind (x : Run σ α) (f : α → Run σ β) (s : σ) :
    ((x >>= f).run s).result =
      (x.run s).result >>= fun a => ((f a).run (x.run s).state).result := by
  rcases x.ends_cases s with ⟨a, s', hx⟩ | ⟨fault, s', hx⟩
  · rw [(hx.bind ((f a).ends_self s')).1, hx.1, hx.2]
    rfl
  · rw [(hx.bind_error (f := f)).1, hx.1]
    rfl

theorem bind_congr_of_ends {x : Run σ α} {f g : α → Run σ β}
    (h : ∀ s a s', x.Ends s (.ok a) s' → f a = g a) : x >>= f = x >>= g := by
  refine Run.ext fun s => ?_
  rw [run_bind, run_bind]
  have hx := fun a => h s a (x.run s).state
  unfold Ends at hx
  generalize x.run s = out at hx ⊢
  obtain ⟨result, s', log⟩ := out
  cases result with
  | error fault => rfl
  | ok a =>
      dsimp only
      rw [hx a ⟨rfl, rfl⟩]

theorem result_ofExcept (r : Except Fault α) (s : σ) : ((ofExcept r).run s).result = r :=
  (ends_ofExcept r s).1

theorem ends_pure_iff {a : α} {s s' : σ} {r : Except Fault α} :
    (pure a : Run σ α).Ends s r s' ↔ r = .ok a ∧ s' = s :=
  and_congr eq_comm eq_comm

theorem ends_bind_ok {x : Run σ α} {f : α → Run σ β} {s s'' : σ} {b : β} :
    (x >>= f).Ends s (.ok b) s'' ↔
      ∃ a s', x.Ends s (.ok a) s' ∧ (f a).Ends s' (.ok b) s'' := by
  constructor
  · intro h
    rcases x.ends_cases s with ⟨a, s', hx⟩ | ⟨fault, s', hx⟩
    · obtain ⟨hr, hs⟩ := (hx.bind ((f a).ends_self s')).unique h
      exact ⟨a, s', hx, hr, hs⟩
    · cases (hx.bind_error.unique h).1
  · rintro ⟨a, s', hx, hf⟩
    exact hx.bind hf

theorem ends_ofResult_bind_ok {r : Except Failure α} {f : α → Run σ β} {s s' : σ} {b : β} :
    (ofResult r >>= f).Ends s (.ok b) s' ↔ ∃ a, r = .ok a ∧ (f a).Ends s (.ok b) s' := by
  cases r with
  | ok a =>
      constructor
      · intro h
        exact ⟨a, rfl, h⟩
      · rintro ⟨a', ha, h⟩
        cases ha
        exact h
  | error failure =>
      constructor
      · intro h
        cases h.1
      · rintro ⟨a', ha, -⟩
        cases ha

theorem ends_bind_error {x : Run σ α} {f : α → Run σ β} {s s'' : σ} {fault : Fault} :
    (x >>= f).Ends s (.error fault) s'' ↔
      x.Ends s (.error fault) s'' ∨
        ∃ a s', x.Ends s (.ok a) s' ∧ (f a).Ends s' (.error fault) s'' := by
  constructor
  · intro h
    rcases x.ends_cases s with ⟨a, s', hx⟩ | ⟨fault', s', hx⟩
    · obtain ⟨hr, hs⟩ := (hx.bind ((f a).ends_self s')).unique h
      exact .inr ⟨a, s', hx, hr, hs⟩
    · obtain ⟨hr, rfl⟩ := hx.bind_error.unique h
      cases hr
      exact .inl hx
  · rintro (hx | ⟨a, s', hx, hf⟩)
    · exact hx.bind_error
    · exact hx.bind hf

theorem ends_mapFault {x : Run σ α} {f : Fault → Fault} {s s' : σ} {r : Except Fault α} :
    (x.mapFault f).Ends s r s' ↔ ∃ r', x.Ends s r' s' ∧ r'.mapError f = r := by
  constructor
  · rintro ⟨hr, hs⟩
    exact ⟨_, ⟨rfl, hs⟩, hr⟩
  · rintro ⟨r', hx, rfl⟩
    exact hx.mapFault

theorem of_ends_mapM_ok {f : α → Run σ β} : ∀ {l : List α} {s s' : σ} {bs : List β},
    (l.mapM f).Ends s (.ok bs) s' →
    List.Forall₂ (fun a b => ∃ t t', (f a).Ends t (.ok b) t') l bs
  | [], s, s', bs, h => by
      rw [List.mapM_nil, ends_pure_iff] at h
      cases h.1
      exact .nil
  | a :: l, s, s', bs, h => by
      rw [List.mapM_cons, ends_bind_ok] at h
      obtain ⟨b, t, ha, h⟩ := h
      obtain ⟨rest, t', hl, h⟩ := ends_bind_ok.1 h
      cases (ends_pure_iff.1 h).1
      exact .cons ⟨s, t, ha⟩ (of_ends_mapM_ok hl)

/-- A run over a list that fails has failed on a member, and succeeded on all before it. -/
theorem of_ends_mapM_error {f : α → Run σ β} {fault : Fault} : ∀ {l : List α} {s s' : σ},
    (l.mapM f).Ends s (.error fault) s' →
    ∃ before a after bs t, l = before ++ a :: after ∧ (before.mapM f).Ends s (.ok bs) t ∧
      (f a).Ends t (.error fault) s'
  | [], s, s', h => by
      rw [List.mapM_nil, ends_pure_iff] at h
      cases h.1
  | a :: l, s, s', h => by
      rw [List.mapM_cons, ends_bind_error] at h
      rcases h with ha | ⟨b, t, ha, h⟩
      · refine ⟨[], a, l, [], s, rfl, ?_, ha⟩
        rw [List.mapM_nil]
        exact ends_pure [] s
      · rcases ends_bind_error.1 h with hl | ⟨rest, t', -, h⟩
        · obtain ⟨before, c, after, bs, t', rfl, hbefore, hc⟩ := of_ends_mapM_error hl
          refine ⟨a :: before, c, after, b :: bs, t', rfl, ?_, hc⟩
          rw [List.mapM_cons]
          exact ha.bind (hbefore.bind (ends_pure _ t'))
        · cases (ends_pure_iff.1 h).1

theorem of_ends_collect_ok {f : α → Run σ (List β)} : ∀ {l : List α} {s s' : σ} {out : List β},
    (collect f l).Ends s (.ok out) s' →
    ∃ parts, List.Forall₂ (fun a part => ∃ t t', (f a).Ends t (.ok part) t') l parts ∧
      out = parts.flatten
  | [], s, s', out, h => by
      cases (ends_pure_iff.1 h).1
      exact ⟨[], .nil, rfl⟩
  | a :: l, s, s', out, h => by
      obtain ⟨first, t, ha, h⟩ := ends_bind_ok.1 h
      obtain ⟨others, t', hl, h⟩ := ends_bind_ok.1 h
      cases (ends_pure_iff.1 h).1
      obtain ⟨parts, hparts, rfl⟩ := of_ends_collect_ok hl
      exact ⟨first :: parts, .cons ⟨s, t, ha⟩ hparts, rfl⟩

theorem of_ends_collect_error {f : α → Run σ (List β)} {fault : Fault} : ∀ {l : List α} {s s' : σ},
    (collect f l).Ends s (.error fault) s' →
    ∃ before a after out t, l = before ++ a :: after ∧ (collect f before).Ends s (.ok out) t ∧
      (f a).Ends t (.error fault) s'
  | [], s, s', h => by cases (ends_pure_iff.1 h).1
  | a :: l, s, s', h => by
      rcases ends_bind_error.1 h with ha | ⟨first, t, ha, h⟩
      · exact ⟨[], a, l, [], s, rfl, ends_pure [] s, ha⟩
      · rcases ends_bind_error.1 h with hl | ⟨others, t', -, h⟩
        · obtain ⟨before, c, after, out, t', rfl, hbefore, hc⟩ := of_ends_collect_error hl
          exact ⟨a :: before, c, after, first ++ out, t', rfl,
            ha.bind (hbefore.bind (ends_pure _ t')), hc⟩
        · cases (ends_pure_iff.1 h).1

/-! ### Making room -/

variable {settings : Settings} {stack : Nat}

/-- A run that room is made for is done, or it is refused and nothing happens. -/
theorem ends_withRoom {x : Run σ α} {s s' : σ} {r : Except Fault α} :
    (x.withRoom settings stack).Ends s r s' ↔ settings.Fits stack ∧ x.Ends s r s' ∨
      ¬settings.Fits stack ∧ r = .error (.ofFailure noRoom) ∧ s' = s := by
  by_cases hfits : settings.Fits stack
  · simp [withRoom_of_fits hfits, hfits]
  · rw [withRoom_of_not_fits hfits]
    simp only [hfits, false_and, not_false_eq_true, true_and, false_or]
    exact and_congr eq_comm eq_comm

theorem ends_withRoom_ok {x : Run σ α} {s s' : σ} {a : α} :
    (x.withRoom settings stack).Ends s (.ok a) s' ↔
      settings.Fits stack ∧ x.Ends s (.ok a) s' := by
  simp [ends_withRoom]

theorem Ends.withRoom {x : Run σ α} {s s' : σ} {r : Except Fault α} (h : x.Ends s r s')
    (hfits : settings.Fits stack) : (x.withRoom settings stack).Ends s r s' :=
  ends_withRoom.2 (.inl ⟨hfits, h⟩)

/-! ### From every state of a set -/

/-- From every state of `I` the run ends in `r` and leaves a state of `I`. -/
def Means (I : σ → Prop) (x : Run σ α) (r : Except Fault α) : Prop :=
  ∀ s, I s → (x.run s).result = r ∧ I (x.run s).state

variable {I : σ → Prop}

theorem means_pure (a : α) : Means I (pure a) (.ok a) := fun _ hs => ⟨rfl, hs⟩

theorem means_fail (fault : Fault) : Means I (fail fault : Run σ α) (.error fault) :=
  fun _ hs => ⟨rfl, hs⟩

theorem means_problem (p : Problem) : Means I (problem p : Run σ α) (.error (.ofProblem p)) :=
  means_fail _

theorem means_progress (level : Nat) (message : String) :
    Means I (progress level message) (.ok ()) := fun _ hs => ⟨rfl, hs⟩

theorem Ends.means {x : Run σ α} {s : σ} {r : Except Fault α} (hx : x.Ends s r s) :
    Means (· = s) x r := by
  rintro t rfl
  exact hx

theorem Means.bind_ok {x : Run σ α} {f : α → Run σ β} {a : α} {r : Except Fault β}
    (hx : Means I x (.ok a)) (hf : Means I (f a) r) : Means I (x >>= f) r := by
  intro s hs
  obtain ⟨hr, hI⟩ := hx s hs
  obtain ⟨hr', hI'⟩ := hf _ hI
  obtain ⟨h₁, h₂⟩ := Ends.bind (f := f) ⟨hr, rfl⟩ ⟨hr', rfl⟩
  exact ⟨h₁, h₂ ▸ hI'⟩

theorem Means.bind_error {x : Run σ α} {f : α → Run σ β} {fault : Fault}
    (hx : Means I x (.error fault)) : Means I (x >>= f) (.error fault) := by
  intro s hs
  obtain ⟨hr, hI⟩ := hx s hs
  obtain ⟨h₁, h₂⟩ := Ends.bind_error (f := f) ⟨hr, rfl⟩
  exact ⟨h₁, h₂ ▸ hI⟩

theorem Means.bind {x : Run σ α} {f : α → Run σ β} {r : Except Fault α}
    {g : α → Except Fault β} (hx : Means I x r) (hf : ∀ a, Means I (f a) (g a)) :
    Means I (x >>= f) (r >>= g) := by
  cases r with
  | error fault => exact hx.bind_error
  | ok a => exact hx.bind_ok (hf a)

theorem Means.mapFault {x : Run σ α} {f : Fault → Fault} {r : Except Fault α}
    (hx : Means I x r) : Means I (x.mapFault f) (r.mapError f) :=
  fun s hs => ⟨congrArg (Except.mapError f) (hx s hs).1, (hx s hs).2⟩

theorem Means.mapM {f : α → Run σ β} {g : α → Except Fault β} (h : ∀ a, Means I (f a) (g a)) :
    ∀ l : List α, Means I (l.mapM f) (l.mapM g)
  | [] => by
      rw [List.mapM_nil, List.mapM_nil]
      exact means_pure []
  | a :: l => by
      rw [List.mapM_cons, List.mapM_cons]
      exact (h a).bind fun b => (mapM h l).bind fun bs => means_pure (b :: bs)

/-- Collecting lists is running over all members and joining what comes of them. -/
theorem Means.collect {f : α → Run σ (List β)} {g : α → Except Fault (List β)}
    (h : ∀ a, Means I (f a) (g a)) :
    ∀ l : List α, Means I (Run.collect f l) (do return (← l.mapM g).flatten)
  | [] => means_pure []
  | a :: l => by
      have e : (do return (← (a :: l).mapM g).flatten : Except Fault (List β)) =
          (do
            let first ← g a
            let others ← (do return (← l.mapM g).flatten)
            pure (first ++ others)) := by
        simp
      rw [e]
      exact (h a).bind fun first => (collect h l).bind fun others => means_pure (first ++ others)

/-! ### What a run leaves alone -/

variable {view : σ → τ}

/-- The run leaves what a view shows of the state as it is, whatever it ends in. -/
def Keeps (view : σ → τ) (x : Run σ α) : Prop := ∀ s, view (x.run s).state = view s

theorem keeps_pure (a : α) : (pure a : Run σ α).Keeps view := fun _ => rfl

theorem keeps_fail (fault : Fault) : (fail fault : Run σ α).Keeps view := fun _ => rfl

theorem keeps_get : (get : Run σ σ).Keeps view := fun _ => rfl

theorem keeps_note (entry : Entry) : (note entry : Run σ Unit).Keeps view := fun _ => rfl

theorem keeps_progress (level : Nat) (message : String) :
    (progress level message : Run σ Unit).Keeps view := keeps_note _

theorem keeps_ofExcept (r : Except Fault α) : (ofExcept r : Run σ α).Keeps view :=
  fun s => congrArg view (ends_ofExcept r s).2

theorem keeps_ofResult (r : Except Failure α) : (ofResult r : Run σ α).Keeps view := by
  cases r with
  | error failure => exact keeps_fail _
  | ok a => exact keeps_pure a

theorem Keeps.withRoom {x : Run σ α} (hx : x.Keeps view) (settings : Settings) (stack : Nat) :
    (x.withRoom settings stack).Keeps view := by
  unfold Run.withRoom
  split
  · exact hx
  · exact keeps_fail _

theorem keeps_aside {ρ : Type} (t : ρ) (x : Run ρ α) : (x.aside t : Run σ α).Keeps view :=
  fun _ => rfl

theorem keeps_onSecond {ρ : Type} (x : Run ρ α) : (x.onSecond : Run (σ × ρ) α).Keeps Prod.fst :=
  fun _ => rfl

theorem Keeps.bind {x : Run σ α} {f : α → Run σ β} (hx : x.Keeps view) (hf : ∀ a, (f a).Keeps view) :
    (x >>= f).Keeps view := by
  intro s
  have h := hx s
  rw [run_bind]
  generalize x.run s = out at h ⊢
  obtain ⟨result, s', log⟩ := out
  cases result with
  | error fault => exact h
  | ok a => exact (hf a s').trans h

end Run
end Literate
