import Mathlib
import Literate.Proofs.Registered

/-! # Where an expansion fails

A problem met in an expansion is reported below a note on each line that led to it. The notes are a true
path: the first line is one of those that are expanded, and each other one stands in the block named by a
reference on the line before it (`Descends`). Nothing else failed before it, since at every level the
lines before the noted one, and the segments of that line before the reference, have expanded
(`Arrives`). At the end of the path stands a problem of the last reference: its block is unknown, its
block lies below the bound, or its filters do not work (`ChainFails`).

Filters may fail, act on a state, and register or remove other filters; all that is assumed is that
looking one up only reads the state. -/

namespace Literate

variable {σ : Type}

/-! ### Chains of filters -/

/-- Filters that are looked up in a registry which the state holds. -/
def Filters.ofState (entry : σ → Text → Option (Filter σ)) (view : σ → ValueView) : Filters σ where
  find? name := do return entry (← Run.get) name
  view := do return view (← Run.get)

namespace Filter

variable {entry : σ → Text → Option (Filter σ)} {view : σ → ValueView}

/-- How a chain of filters fails on lines. A name under which nothing is registered is reported before
any filter runs; otherwise the first filter that ends in a fault is blamed. -/
inductive ChainFails (entry : σ → Text → Option (Filter σ)) (s : σ) (lines : List Text) :
    List Text → Fault → Prop
  | unknown {known rest : List Text} {name : Text} (hknown : ∀ n ∈ known, (entry s n).isSome)
      (hname : entry s name = none) :
      ChainFails entry s lines (known ++ name :: rest) (.ofProblem (.unknownFilter name))
  | raised {found rest : List (Text × Filter σ)} {name : Text} {f : Filter σ} {items : List Value}
      {s' s'' : σ} {fault : Fault}
      (hfound : ∀ p ∈ found ++ (name, f) :: rest, entry s p.1 = some p.2)
      (hbefore : (runAll found (lines.map .text)).Ends s (.ok items) s')
      (hfails : (f items).Ends s' (.error fault) s'') :
      ChainFails entry s lines ((found ++ (name, f) :: rest).map Prod.fst) (blame name fault)

/-- Looking up a chain reads the state: it finds all filters, or reports the first name without one. -/
theorem ends_lookUp (s : σ) : ∀ names : List Text,
    (∃ found, names = found.map Prod.fst ∧ (∀ p ∈ found, entry s p.1 = some p.2) ∧
      (lookUp (Filters.ofState entry view).find? names).Ends s (.ok found) s) ∨
    ∃ known name rest, names = known ++ name :: rest ∧ (∀ n ∈ known, (entry s n).isSome) ∧
      entry s name = none ∧ (lookUp (Filters.ofState entry view).find? names).Ends s
        (.error (.ofProblem (.unknownFilter name))) s
  | [] => .inl ⟨[], rfl, by simp, Run.ends_pure [] s⟩
  | name :: names => by
      have hfind : ((Filters.ofState entry view).find? name).Ends s (.ok (entry s name)) s :=
        ⟨rfl, rfl⟩
      cases hentry : entry s name with
      | none =>
          rw [hentry] at hfind
          exact .inr ⟨[], name, names, rfl, by simp, hentry, hfind.bind (Run.ends_fail _ s)⟩
      | some f =>
          rw [hentry] at hfind
          rcases ends_lookUp s names with ⟨found, rfl, hfound, hends⟩ |
            ⟨known, unknown, rest, rfl, hknown, hunknown, hends⟩
          · refine .inl ⟨(name, f) :: found, rfl, List.forall_mem_cons.2 ⟨hentry, hfound⟩, ?_⟩
            exact hfind.bind (hends.bind (Run.ends_pure _ s))
          · refine .inr ⟨name :: known, unknown, rest, rfl, ?_, hunknown, ?_⟩
            · exact List.forall_mem_cons.2 ⟨by rw [hentry]; rfl, hknown⟩
            · exact hfind.bind hends.bind_error

/-- Running filters fails with the first of them that fails. -/
theorem of_ends_runAll_error {fault : Fault} : ∀ {filters : List (Text × Filter σ)}
    {items : List Value} {s s' : σ}, (runAll filters items).Ends s (.error fault) s' →
    ∃ found name f rest items' t fault', filters = found ++ (name, f) :: rest ∧
      (runAll found items).Ends s (.ok items') t ∧ (f items').Ends t (.error fault') s' ∧
      fault = blame name fault'
  | [], items, s, s', h => by cases (Run.ends_pure_iff.1 h).1
  | (name, f) :: filters, items, s, s', h => by
      rcases Run.ends_bind_error.1 h with hf | ⟨next, t, hf, h⟩
      · obtain ⟨r, hr, hfault⟩ := Run.ends_mapFault.1 hf
        obtain ⟨fault', rfl, rfl⟩ := Result.mapError_eq_error.1 hfault
        exact ⟨[], name, f, filters, items, s, fault', rfl, Run.ends_pure _ s, hr, rfl⟩
      · obtain ⟨found, other, g, rest, items', t', fault', rfl, hbefore, hg, rfl⟩ :=
          of_ends_runAll_error h
        exact ⟨(name, f) :: found, other, g, rest, items', t', fault', rfl, hf.bind hbefore, hg, rfl⟩

theorem isProblem_blame (name : Text) (fault : Fault) : (blame name fault).isProblem = true := by
  unfold blame
  split
  · assumption
  · rfl

theorem ChainFails.isProblem {s : σ} {lines names : List Text} {fault : Fault}
    (h : ChainFails entry s lines names fault) : fault.isProblem = true := by
  cases h with
  | unknown hknown hname => rfl
  | raised hfound hbefore hfails => exact isProblem_blame _ _

/-- A problem in filtering is that a chain of filters fails. Lines that are no texts are a failure, but no
problem of the pipeline. -/
theorem chainFails_of_ends_apply {names lines : List Text} {s s' : σ} {fault : Fault}
    (h : ((Filters.ofState entry view).apply names lines).Ends s (.error fault) s')
    (hproblem : fault.isProblem = true) : ChainFails entry s lines names fault := by
  rcases Run.ends_bind_error.1 h with hchain | ⟨items, t, -, h⟩
  · rcases @ends_lookUp σ entry view s names with
      ⟨found, rfl, hfound, hends⟩ | ⟨known, name, rest, rfl, hknown, hname, hends⟩
    · rcases Run.ends_bind_error.1 hchain with hlook | ⟨found', t, hlook, hrun⟩
      · cases (hends.unique hlook).1
      · obtain ⟨hr, rfl⟩ := hends.unique hlook
        cases hr
        obtain ⟨first, name, f, rest, items, t, fault', rfl, hbefore, hf, rfl⟩ :=
          of_ends_runAll_error hrun
        exact .raised hfound hbefore hf
    · cases (hends.bind_error.unique hchain).1
      exact .unknown hknown hname
  · rcases Run.ends_bind_error.1 h with hview | ⟨shown, t', -, h⟩
    · cases hview.1
    · cases htexts : texts shown items with
      | ok out =>
          rw [htexts] at h
          cases h.1
      | error failure =>
          rw [htexts] at h
          cases h.1
          cases hproblem

end Filter

/-! ### Paths -/

namespace Expansion

open Text

variable {d : Delimiters} {table : Table Text (List Text)} {filters : Filters σ}

/-- Expanding fixed lines within the bound is expanding one after the other. -/
theorem ends_bodyAt {maxDepth depth : Int} (hdepth : depth ≤ maxDepth) {lines : List Text} {s s' : σ}
    {r : Except Fault (List Text)} :
    (bodyAt d (Scope.ofTable table filters) maxDepth depth (.fixed lines)).Ends s r s' ↔
      (Run.collect (fun line =>
        (lineAt d (Scope.ofTable table filters) maxDepth depth line).mapFault (onLine line))
        lines).Ends s r s' := by
  obtain ⟨n, hn⟩ : ∃ n, budget maxDepth depth = n + 1 :=
    ⟨(maxDepth - depth).toNat, by unfold budget; omega⟩
  have hinner : budget maxDepth (depth + 1) = n := by
    unfold budget at hn ⊢
    omega
  unfold bodyAt lineAt bodyAt
  rw [hn, hinner, expandBody_fixed]
  exact Run.ends_progress_bind

theorem expandSegment_unknown {inner : Body σ Text → Run σ (List Text)} {line : Text}
    {r : Reference} (h : table.get? r.name = none) :
    expandSegment (Scope.ofTable table filters) inner line (.reference r) =
      Run.problem (.unknownBlock r.name (strip line)) := by
  simp [expandSegment, Scope.ofTable, h]

theorem expandSegment_known {inner : Body σ Text → Run σ (List Text)} {line : Text}
    {r : Reference} {body : List Text} (h : table.get? r.name = some body) :
    expandSegment (Scope.ofTable table filters) inner line (.reference r) = (do
      let lines ← inner (.fixed body)
      let filtered ← filters.apply r.filters lines
      return .lines filtered) := by
  simp [expandSegment, Scope.ofTable, h]

variable {maxDepth : Nat}

/-- When lines are expanded at a depth from the state `s`, everything before the reference `r` on `line`
has expanded, and has left the state `t`. -/
def Arrives (d : Delimiters) (table : Table Text (List Text)) (filters : Filters σ)
    (maxDepth depth : Nat) (s : σ) (lines : List Text) (line : Text) (r : Reference) (t : σ) : Prop :=
  ∃ before after out s' first rest pieces, lines = before ++ line :: after ∧
    (bodyAt d (Scope.ofTable table filters) maxDepth depth (.fixed before)).Ends s (.ok out) s' ∧
    segmentsOf d line = first ++ .reference r :: rest ∧
    (first.mapM (expandSegment (Scope.ofTable table filters)
      (bodyAt d (Scope.ofTable table filters) maxDepth (depth + 1)) line)).Ends s' (.ok pieces) t

/-- A path of lines that ends at the reference `r` in the state `t`: the first line is among the lines
that are expanded, each other one in the block that a reference on the line before it names, and on each
of them all before its reference has expanded. -/
inductive Descends (d : Delimiters) (table : Table Text (List Text)) (filters : Filters σ)
    (maxDepth : Nat) : Nat → σ → List Text → List Text → Reference → σ → Prop
  | here {depth : Nat} {s t : σ} {lines : List Text} {line : Text} {r : Reference}
      (harrives : Arrives d table filters maxDepth depth s lines line r t) :
      Descends d table filters maxDepth depth s lines [line] r t
  | into {depth : Nat} {s t u : σ} {lines body path : List Text} {line : Text} {q r : Reference}
      (harrives : Arrives d table filters maxDepth depth s lines line q t)
      (hbody : table.get? q.name = some body)
      (hpath : Descends d table filters maxDepth (depth + 1) t body path r u) :
      Descends d table filters maxDepth depth s lines (line :: path) r u

/-- What is wrong with the reference `r` on `line`, which is reached at a depth in the state `t`. -/
inductive Culprit (d : Delimiters) (table : Table Text (List Text))
    (entry : σ → Text → Option (Filter σ)) (view : σ → ValueView) (maxDepth depth : Nat)
    (line : Text) (r : Reference) (t : σ) : Fault → Prop
  | unknownBlock (hbody : table.get? r.name = none) :
      Culprit d table entry view maxDepth depth line r t
        (.ofProblem (.unknownBlock r.name (strip line)))
  | tooDeep {body : List Text} (hbody : table.get? r.name = some body) (hdepth : depth = maxDepth) :
      Culprit d table entry view maxDepth depth line r t
        (.ofProblem (.expansionTooDeep (maxDepth + 1)))
  | filters {body expanded : List Text} {u : σ} {fault : Fault}
      (hbody : table.get? r.name = some body)
      (hexpanded : (bodyAt d (Scope.ofTable table (.ofState entry view)) maxDepth (depth + 1)
        (.fixed body)).Ends t (.ok expanded) u)
      (hfails : Filter.ChainFails entry u expanded r.filters fault) :
      Culprit d table entry view maxDepth depth line r t fault

variable {entry : σ → Text → Option (Filter σ)} {view : σ → ValueView}

theorem Culprit.isProblem {depth : Nat} {line : Text} {r : Reference} {t : σ} {fault : Fault}
    (h : Culprit d table entry view maxDepth depth line r t fault) : fault.isProblem = true := by
  cases h with
  | unknownBlock hbody => rfl
  | tooDeep hbody hdepth => rfl
  | filters hbody hexpanded hfails => exact hfails.isProblem

/-- A note on a line. -/
def noteOn (line : Text) : Cause := .problem (.lineFailed (stripEnd line))

/-- A fault is reported below notes on a path of lines, whose last one holds the culprit. -/
def Traced (d : Delimiters) (table : Table Text (List Text))
    (entry : σ → Text → Option (Filter σ)) (view : σ → ValueView) (maxDepth depth : Nat) (s : σ)
    (lines : List Text) (fault : Fault) : Prop :=
  ∃ path line r t cause,
    Descends d table (.ofState entry view) maxDepth depth s lines (path ++ [line]) r t ∧
    Culprit d table entry view maxDepth (depth + path.length) line r t cause ∧
    fault.chain = (path ++ [line]).map noteOn ++ cause.chain

/-- A problem on a line is a problem of a reference on it, or one in the block the reference names. -/
theorem culprit_of_ends_lineAt {depth : Nat} {line : Text} {s s' : σ} {fault : Fault}
    (h : (lineAt d (Scope.ofTable table (.ofState entry view)) maxDepth depth line).Ends s
      (.error fault) s') (hproblem : fault.isProblem = true) (hdepth : depth ≤ maxDepth) :
    ∃ first r rest pieces t, segmentsOf d line = first ++ .reference r :: rest ∧
      (first.mapM (expandSegment (Scope.ofTable table (.ofState entry view))
        (bodyAt d (Scope.ofTable table (.ofState entry view)) maxDepth (depth + 1)) line)).Ends s
          (.ok pieces) t ∧
      (Culprit d table entry view maxDepth depth line r t fault ∨
        ∃ body, depth < maxDepth ∧ table.get? r.name = some body ∧
          (bodyAt d (Scope.ofTable table (.ofState entry view)) maxDepth (depth + 1)
            (.fixed body)).Ends t (.error fault) s') := by
  unfold lineAt expandLine at h
  dsimp only at h
  split at h
  · rcases Run.ends_bind_error.1 h with hsegments | ⟨pieces, t, -, hsplice⟩
    · obtain ⟨first, segment, rest, pieces, t, hsplit, hfirst, hsegment⟩ :=
        Run.of_ends_mapM_error hsegments
      cases segment with
      | literal text => cases (Run.ends_pure_iff.1 hsegment).1
      | reference r =>
          refine ⟨first, r, rest, pieces, t, hsplit, hfirst, ?_⟩
          cases hbody : table.get? r.name with
          | none =>
              rw [expandSegment_unknown hbody] at hsegment
              cases hsegment.1
              exact .inl (.unknownBlock hbody)
          | some body =>
              rw [expandSegment_known hbody] at hsegment
              rcases Run.ends_bind_error.1 hsegment with hinner | ⟨expanded, u, hinner, hsegment⟩
              · rcases Nat.lt_or_eq_of_le hdepth with hlt | rfl
                · exact .inr ⟨body, hlt, rfl, hinner⟩
                · have hbudget : budget (depth : Int) (depth + 1) = 0 := by
                    unfold budget
                    omega
                  unfold bodyAt at hinner
                  rw [hbudget] at hinner
                  cases hinner.1
                  exact .inl (.tooDeep hbody rfl)
              · rcases Run.ends_bind_error.1 hsegment with hfilter | ⟨filtered, v, -, hsegment⟩
                · exact .inl (.filters hbody hinner
                    (Filter.chainFails_of_ends_apply hfilter hproblem))
                · cases (Run.ends_pure_iff.1 hsegment).1
    · cases (Run.ends_pure_iff.1 hsplice).1
  · cases (Run.ends_pure_iff.1 h).1

theorem chain_onLine {line : Text} {fault : Fault} (h : (onLine line fault).isProblem = true) :
    fault.isProblem = true ∧ (onLine line fault).chain = noteOn line :: fault.chain := by
  unfold onLine at h ⊢
  split at h
  · next hproblem =>
      rw [if_pos hproblem]
      exact ⟨hproblem, rfl⟩
  · next hproblem => exact absurd h hproblem

/-- A problem in the expansion of lines is traced. At every level the bound comes closer. -/
theorem traced_of_ends_bodyAt {depth : Nat} (hdepth : depth ≤ maxDepth) {lines : List Text}
    {s s' : σ} {fault : Fault}
    (h : (bodyAt d (Scope.ofTable table (.ofState entry view)) maxDepth depth (.fixed lines)).Ends s
      (.error fault) s') (hproblem : fault.isProblem = true) :
    Traced d table entry view maxDepth depth s lines fault := by
  have hwithin : (depth : Int) ≤ maxDepth := by omega
  obtain ⟨before, line, after, out, t, rfl, hbefore, hline⟩ :=
    Run.of_ends_collect_error ((ends_bodyAt hwithin).1 h)
  obtain ⟨r, hends, hfault⟩ := Run.ends_mapFault.1 hline
  obtain ⟨fault, rfl, rfl⟩ := Result.mapError_eq_error.1 hfault
  obtain ⟨hproblem, hchain⟩ := chain_onLine hproblem
  obtain ⟨first, r, rest, pieces, u, hsegments, hfirst, hreason⟩ :=
    culprit_of_ends_lineAt hends hproblem hdepth
  have harrives : Arrives d table (.ofState entry view) maxDepth depth s (before ++ line :: after)
      line r u :=
    ⟨before, after, out, t, first, rest, pieces, rfl, (ends_bodyAt hwithin).2 hbefore, hsegments,
      hfirst⟩
  rcases hreason with hculprit | ⟨body, hlt, hbody, hinner⟩
  · exact ⟨[], line, r, u, fault, .here harrives, hculprit, hchain⟩
  · have hcast : (depth : Int) + 1 = ((depth + 1 : Nat) : Int) := by push_cast; rfl
    rw [hcast] at hinner
    obtain ⟨path, last, q, v, cause, hpath, hculprit, hcause⟩ :=
      traced_of_ends_bodyAt hlt hinner hproblem
    refine ⟨line :: path, last, q, v, cause, .into harrives hbody hpath, ?_, ?_⟩
    · have hlength : depth + (line :: path).length = depth + 1 + path.length := by
        rw [List.length_cons]
        omega
      rw [hlength]
      exact hculprit
    · rw [hchain, hcause]
      rfl
termination_by maxDepth - depth

theorem kindOf_notes (path : List Text) (chain : List Cause) :
    Cause.kindOf (path.map noteOn ++ chain) = Cause.kindOf chain := by
  induction path with
  | nil => rfl
  | cons line path ih => exact ih

/-- **A problem in an expansion is reported with the path that led to it.** It is a cause below a note on
each line of a path, and every note has the kind of the cause. The path starts on the lines that are
expanded and goes from each line into the block that a reference on it names; everything before the path
has expanded. The cause is what is wrong with the last reference: its block is unknown, or its block lies
below the bound, which only happens at the end of a path as long as the bound allows, or one of its
filters is unknown or fails. -/
theorem expand_problem_traced {settings : Settings} {stack : Nat} {lines : List Text} {s : σ}
    {fault : Fault}
    (h : ((expand (bounded settings maxDepth) stack (Scope.ofTable table (.ofState entry view))
      (.fixed lines)).run s).result = .error fault) (hproblem : fault.isProblem = true) :
    let d := settings.delimiters
    ∃ path line r t cause,
      Descends d table (.ofState entry view) maxDepth 0 s lines (path ++ [line]) r t ∧
      fault.chain = (path ++ [line]).map (fun l => .problem (.lineFailed (stripEnd l))) ++
        cause.chain ∧
      cause.isProblem = true ∧
      (∀ i ≤ path.length, Cause.kindOf (fault.chain.drop i) = cause.kind) ∧
      ((table.get? r.name = none ∧ cause = .ofProblem (.unknownBlock r.name (strip line))) ∨
        (path.length = maxDepth ∧ (table.get? r.name).isSome ∧
          cause = .ofProblem (.expansionTooDeep (maxDepth + 1))) ∨
        ∃ body expanded u, table.get? r.name = some body ∧
          (bodyAt d (Scope.ofTable table (.ofState entry view)) maxDepth (path.length + 1)
            (.fixed body)).Ends t (.ok expanded) u ∧
          Filter.ChainFails entry u expanded r.filters cause) := by
  obtain ⟨s', hends⟩ : ∃ s', (bodyAt settings.delimiters (Scope.ofTable table (.ofState entry view))
      maxDepth 0 (.fixed lines)).Ends s (.error fault) s' := by
    rcases Run.ends_withRoom.1 ⟨h, rfl⟩ with ⟨-, hends⟩ | ⟨-, hrefused, -⟩
    · exact ⟨_, hends⟩
    · cases hrefused
      cases hproblem
  obtain ⟨path, line, r, t, cause, hpath, hculprit, hchain⟩ :=
    traced_of_ends_bodyAt (Nat.zero_le maxDepth) hends hproblem
  refine ⟨path, line, r, t, cause, hpath, hchain, hculprit.isProblem, ?_, ?_⟩
  · intro i hi
    have hlength : i ≤ ((path ++ [line]).map noteOn).length := by
      rw [List.length_map, List.length_append]
      omega
    rw [hchain, List.drop_append_of_le_length hlength, ← List.map_drop, kindOf_notes]
    rfl
  · rw [Nat.zero_add] at hculprit
    cases hculprit with
    | unknownBlock hbody => exact .inl ⟨hbody, rfl⟩
    | tooDeep hbody hdepth => exact .inr (.inl ⟨hdepth, by rw [hbody]; rfl, rfl⟩)
    | filters hbody hexpanded hfails => exact .inr (.inr ⟨_, _, _, hbody, hexpanded, hfails⟩)

end Expansion

/-! ### The filters of a context -/

namespace Script

/-- The filter registered under a name in a context. -/
def registeredFilter? (c : Context) (name : Text) : Option (Filter Context) :=
  match c.entry? c.filterEntries (.text name) with
  | none | some .none => none
  | some f => some (applyFilter f)

/-- The filters that a run finds are those the context holds at that moment. -/
theorem filters_eq_ofState : filters = .ofState registeredFilter? Context.view := by
  have hfind : findFilter = fun name => do return registeredFilter? (← Run.get) name := by
    funext name
    refine Run.ext fun c => ?_
    show (match c.entry? c.filterEntries (.text name) with
      | none | some .none => (return none : Run Context (Option (Filter Context)))
      | some f => return some (applyFilter f)).run c = ⟨.ok (registeredFilter? c name), c, []⟩
    unfold registeredFilter?
    cases c.entry? c.filterEntries (.text name) with
    | none => rfl
    | some v => cases v <;> rfl
  unfold filters Filters.ofState
  rw [hfind]

end Script

/-- An unknown filter in the second of two blocks, behind lines and references that expand. -/
theorem Expansion.expand_unknown_filter_traced :
    ∃ (fault : Fault) (path : List Text) (line : Text) (r : Reference) (t : Script.Context)
        (cause : Fault),
      ((expand (bounded {} (2 : Nat)) 9
        (Scope.ofTable [(['a'], [['1']]), (['b'], ["y\n".toList, "  ⦅a|f⦆".toList])] Script.filters)
        (.fixed ["x\n".toList, "⦅a⦆⦅b⦆\n".toList])).run (Script.Context.fresh [])).result =
          .error fault ∧
      fault.chain = [.problem (.lineFailed "⦅a⦆⦅b⦆".toList), .problem (.lineFailed "  ⦅a|f⦆".toList),
        .problem (.unknownFilter ['f'])] ∧
      Descends {} [(['a'], [['1']]), (['b'], ["y\n".toList, "  ⦅a|f⦆".toList])] Script.filters 2 0
        (Script.Context.fresh []) ["x\n".toList, "⦅a⦆⦅b⦆\n".toList] (path ++ [line]) r t ∧
      fault.chain = (path ++ [line]).map (fun l => .problem (.lineFailed (Text.stripEnd l))) ++
        cause.chain := by
  have h : ((expand (bounded {} (2 : Nat)) 9
      (Scope.ofTable [(['a'], [['1']]), (['b'], ["y\n".toList, "  ⦅a|f⦆".toList])] Script.filters)
      (.fixed ["x\n".toList, "⦅a⦆⦅b⦆\n".toList])).run (Script.Context.fresh [])).result =
      .error ⟨.problem (.lineFailed "⦅a⦆⦅b⦆".toList), [.problem (.lineFailed "  ⦅a|f⦆".toList),
        .problem (.unknownFilter ['f'])]⟩ := by decide +kernel
  rw [Script.filters_eq_ofState] at h ⊢
  obtain ⟨path, line, r, t, cause, hpath, hchain, -⟩ := expand_problem_traced h rfl
  exact ⟨_, path, line, r, t, cause, h, rfl, hpath, hchain⟩

end Literate
