import Mathlib
import Literate.Proofs.Registered

/-! # Chains of filters

A chain of filters is looked up as a whole before any of its filters runs, so a name under which nothing is
registered is reported whatever the filters before it would do (`lookUp_unknown`). A chain of registered
names runs from left to right: a chain in two parts is the second part after the first (`chain_append`), and
a chain of one name is its filter, with a failure reported as one of that filter (`chain_singleton`). The
fault of a chain is therefore that of the first filter that fails on what the filters before it have made
(`chain_eq_error_iff`).

All this is shown for the functions of a registry and holds for every run that finds them
(`Filters.PureOn.chain`). -/

namespace Literate

namespace Registry

variable {registry : Registry} {names a b : List Text} {items : List Value}

/-- Something is registered under every name. -/
def Knows (registry : Registry) (names : List Text) : Prop :=
  ∀ name ∈ names, (registry.function? name).isSome

theorem knows_cons {name : Text} :
    registry.Knows (name :: names) ↔ (∃ g, registry.function? name = some g) ∧ registry.Knows names := by
  unfold Knows
  rw [List.forall_mem_cons, Option.isSome_iff_exists]

theorem knows_append : registry.Knows (a ++ b) ↔ registry.Knows a ∧ registry.Knows b :=
  List.forall_mem_append

/-! ### Looking up -/

theorem lookUp_known {name : Text} {g : List Value → Except Fault (List Value)}
    (hg : registry.function? name = some g) (names : List Text) :
    registry.lookUp (name :: names) = do return (name, g) :: (← registry.lookUp names) := by
  simp only [lookUp, hg]

theorem exists_lookUp (h : registry.Knows names) : ∃ functions, registry.lookUp names = .ok functions := by
  induction names with
  | nil => exact ⟨[], rfl⟩
  | cons name names ih =>
      obtain ⟨⟨g, hg⟩, hnames⟩ := knows_cons.1 h
      obtain ⟨functions, hfunctions⟩ := ih hnames
      exact ⟨(name, g) :: functions, by rw [lookUp_known hg, hfunctions]; rfl⟩

/-- The first name under which nothing is registered is reported. -/
theorem lookUp_unknown {known rest : List Text} {name : Text} (hknown : registry.Knows known)
    (hname : registry.function? name = none) :
    registry.lookUp (known ++ name :: rest) = .error (.ofProblem (.unknownFilter name)) := by
  induction known with
  | nil => simp only [List.nil_append, lookUp, hname]
  | cons first known ih =>
      obtain ⟨⟨g, hg⟩, hknown⟩ := knows_cons.1 hknown
      rw [List.cons_append, lookUp_known hg, ih hknown]
      rfl

/-! ### Running -/

theorem chain_cons {name : Text} {g : List Value → Except Fault (List Value)}
    (hg : registry.function? name = some g) (hnames : registry.Knows names) (items : List Value) :
    registry.chain (name :: names) items =
      (g items).mapError (Filter.blame name) >>= registry.chain names := by
  obtain ⟨functions, hfunctions⟩ := exists_lookUp hnames
  unfold chain
  rw [lookUp_known hg, hfunctions]
  rfl

theorem chain_singleton {name : Text} {g : List Value → Except Fault (List Value)}
    (hg : registry.function? name = some g) (items : List Value) :
    registry.chain [name] items = (g items).mapError (Filter.blame name) := by
  rw [chain_cons hg (by simp [Knows])]
  exact bind_pure _

theorem chain_append (h : registry.Knows (a ++ b)) (items : List Value) :
    registry.chain (a ++ b) items = registry.chain a items >>= registry.chain b := by
  induction a generalizing items with
  | nil => rfl
  | cons name a ih =>
      rw [List.cons_append] at h ⊢
      obtain ⟨⟨g, hg⟩, hrest⟩ := knows_cons.1 h
      rw [chain_cons hg hrest, chain_cons hg (knows_append.1 hrest).1, bind_assoc]
      exact bind_congr fun next => ih hrest next

/-- A chain of registered names fails with the first filter that fails on its input. -/
theorem chain_eq_error_iff {fault : Fault} (h : registry.Knows names) :
    registry.chain names items = .error fault ↔
      ∃ before name after g input cause, names = before ++ name :: after ∧
        registry.function? name = some g ∧ registry.chain before items = .ok input ∧
        g input = .error cause ∧ fault = Filter.blame name cause := by
  constructor
  · intro hfault
    induction names generalizing items with
    | nil => cases hfault
    | cons name names ih =>
        obtain ⟨⟨g, hg⟩, hnames⟩ := knows_cons.1 h
        rw [chain_cons hg hnames, Result.bind_eq_error] at hfault
        rcases hfault with hfirst | ⟨next, hfirst, hlater⟩
        · obtain ⟨cause, hcause, rfl⟩ := Result.mapError_eq_error.1 hfirst
          exact ⟨[], name, names, g, items, cause, rfl, hg, rfl, hcause, rfl⟩
        · obtain ⟨before, other, after, g', input, cause, rfl, hg', hbefore, hcause, rfl⟩ :=
            ih hnames hlater
          refine ⟨name :: before, other, after, g', input, cause, rfl, hg', ?_, hcause, rfl⟩
          rw [chain_cons hg (knows_append.1 hnames).1, hfirst]
          exact hbefore
  · rintro ⟨before, name, after, g, input, cause, rfl, hg, hbefore, hcause, rfl⟩
    have hafter : registry.Knows after := (knows_cons.1 (knows_append.1 h).2).2
    rw [chain_append h, hbefore]
    show registry.chain (name :: after) input = _
    rw [chain_cons hg hafter, hcause]
    rfl

end Registry

/-! ### Runs of chains -/

namespace Filter

variable {σ : Type} {filters : Filters σ} {I : σ → Prop} {registry : Registry} {s : σ}

theorem blame_of_isProblem {cause : Fault} (name : Text) (h : cause.isProblem = true) :
    blame name cause = cause := if_pos h

theorem blame_of_failure {cause : Fault} (name : Text) (h : cause.isProblem = false) :
    (blame name cause).kind = .evaluator ∧
      (blame name cause).message = s!"Filter '{name.str}' failed" ∧
      (blame name cause).causes = cause.chain := by
  have hblame : blame name cause = cause.under (.filterFailed name) := if_neg (by simp [h])
  rw [hblame]
  exact ⟨rfl, rfl, rfl⟩

/-- A chain of pure filters is checked whole and then run from left to right. -/
theorem chain_checked_then_run (h : filters.PureOn I registry) (hs : I s) (items : List Value) :
    (∀ known name rest, registry.Knows known → registry.function? name = none →
      ((chain filters.find? (known ++ name :: rest) items).run s).result =
        .error (.ofProblem (.unknownFilter name)) ∧
      (Fault.ofProblem (.unknownFilter name)).kind = .reference ∧
      (Fault.ofProblem (.unknownFilter name)).message = s!"Filter '{name.str}' unknown") ∧
    ((chain filters.find? [] items).run s).result = .ok items ∧
    (∀ name g, registry.function? name = some g →
      ((chain filters.find? [name] items).run s).result = (g items).mapError (blame name)) ∧
    (∀ a b, registry.Knows (a ++ b) →
      ((chain filters.find? (a ++ b) items).run s).result =
        ((chain filters.find? a items >>= chain filters.find? b).run s).result) ∧
    (∀ names fault, registry.Knows names →
      (((chain filters.find? names items).run s).result = .error fault ↔
        ∃ before name after g input cause, names = before ++ name :: after ∧
          registry.function? name = some g ∧
          ((chain filters.find? before items).run s).result = .ok input ∧
          g input = .error cause ∧ fault = blame name cause)) ∧
    ∀ (name : Text) (cause : Fault), if cause.isProblem then blame name cause = cause
      else (blame name cause).kind = .evaluator ∧
        (blame name cause).message = s!"Filter '{name.str}' failed" ∧
        (blame name cause).causes = cause.chain := by
  have hresult : ∀ names items, ((chain filters.find? names items).run s).result =
      registry.chain names items := fun names items => (h.chain names items s hs).1
  refine ⟨?_, ?_, ?_, ?_, ?_, ?_⟩
  · intro known name rest hknown hname
    refine ⟨?_, rfl, rfl⟩
    rw [hresult, Registry.chain, Registry.lookUp_unknown hknown hname]
    rfl
  · exact hresult [] items
  · intro name g hg
    rw [hresult, Registry.chain_singleton hg]
  · intro a b hknown
    have hparts := (h.chain a items).bind fun next => h.chain b next
    rw [hresult, Registry.chain_append hknown, (hparts s hs).1]
  · intro names fault hknown
    simp only [hresult]
    exact Registry.chain_eq_error_iff hknown
  · intro name cause
    split
    · next hproblem => exact blame_of_isProblem name hproblem
    · next hfailure => exact blame_of_failure name (Bool.eq_false_iff.2 hfailure)

theorem chain_checked_then_run_fresh :
    let c := Script.Context.fresh "  ".toList
    ((chain Script.findFilter ["add_comma".toList, "nope".toList] [.none]).run c).result =
      .error (.ofProblem (.unknownFilter "nope".toList)) ∧
    ((chain Script.findFilter (["indent_continuation".toList, "add_comma".toList] ++
        ["double_quote".toList]) [.none]).run c).result =
      ((chain Script.findFilter ["indent_continuation".toList, "add_comma".toList] [.none] >>=
        chain Script.findFilter ["double_quote".toList]).run c).result ∧
    ((chain Script.findFilter ["indent_continuation".toList, "add_comma".toList,
        "double_quote".toList] [.none]).run c).result =
      .error (blame "add_comma".toList (.ofFailure (.noMember "NoneType" "strip".toList))) := by
  intro c
  obtain ⟨hunknown, -, -, happend, hfault, -⟩ := chain_checked_then_run
    (Script.filters_pureOn (Script.Context.fresh_builtinFilters "  ".toList).plain) rfl [.none]
  have hknows : ∀ names : List Text, (names.all fun name => (c.registry.function? name).isSome) = true →
      c.registry.Knows names := fun names hall name hname => List.all_eq_true.1 hall name hname
  refine ⟨(hunknown ["add_comma".toList] "nope".toList [] (hknows _ rfl) rfl).1,
    happend _ _ (hknows _ rfl), ?_⟩
  exact (hfault _ _ (hknows _ rfl)).2 ⟨["indent_continuation".toList], "add_comma".toList,
    ["double_quote".toList], _, [.none], _, rfl, rfl, rfl, rfl, rfl⟩

end Filter
end Literate
