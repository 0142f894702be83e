import Mathlib
import Literate.Proofs.DepthBound

/-! # The blocks an expansion depends on

An expansion looks up the blocks that references lead to from its lines, and no others. Two tables that
have the same body, or none, under each of these names (`AgreeFrom`) cannot be told apart by it: the two
expansions are the same run, with the same lines or the same fault, the same log and the same effect on
the state in which filters run (`expand_of_agreeFrom`). Nothing is assumed about the filters, and the
references may go round in a cycle.

What can be reached is a matter of the tokenizer: a reference counts where it is one of the segments of
a line (`Refers`), not where its text occurs. -/

namespace Literate

namespace Run

variable {σ α β : Type}

theorem mapM_congr {f g : α → Run σ β} : ∀ {l : List α}, (∀ a ∈ l, f a = g a) →
    l.mapM f = l.mapM g
  | [], _ => by rw [List.mapM_nil, List.mapM_nil]
  | a :: l, h => by
      rw [List.forall_mem_cons] at h
      rw [List.mapM_cons, List.mapM_cons, h.1, mapM_congr h.2]

theorem collect_congr {f g : α → Run σ (List β)} : ∀ {l : List α}, (∀ a ∈ l, f a = g a) →
    collect f l = collect g l
  | [], _ => rfl
  | a :: l, h => by
      rw [List.forall_mem_cons] at h
      rw [collect, collect, h.1, collect_congr h.2]

end Run

namespace Expansion

variable {σ : Type} {d : Delimiters} {table table' : Table Text (List Text)}
  {filters : Filters σ} {lines : List Text}

/-- Two tables have the same body, or none, under every name that references lead to from the lines. -/
def AgreeFrom (d : Delimiters) (table table' : Table Text (List Text)) (lines : List Text) : Prop :=
  ∀ r, Reaches d table lines r → table.get? r.name = table'.get? r.name

namespace AgreeFrom

variable {r : Reference}

theorem get? (h : AgreeFrom d table table' lines) (hr : Refers d lines r) :
    table.get? r.name = table'.get? r.name := h r hr.reaches

theorem target (h : AgreeFrom d table table' lines) (hr : Refers d lines r) :
    AgreeFrom d table table' (target table r) := by
  rintro q ⟨first, hq⟩
  exact h q ⟨r :: first, hr, hq⟩

theorem isChain_iff : ∀ {chain : List Reference} {lines : List Text},
    AgreeFrom d table table' lines → (IsChain d table lines chain ↔ IsChain d table' lines chain)
  | [], _, _ => Iff.rfl
  | r :: rest, lines, h => by
      refine and_congr_right fun hr => ?_
      have htarget : Expansion.target table r = Expansion.target table' r := by
        unfold Expansion.target
        rw [h.get? hr]
      rw [← htarget]
      exact isChain_iff (h.target hr)

theorem reaches_iff (h : AgreeFrom d table table' lines) :
    Reaches d table lines r ↔ Reaches d table' lines r :=
  exists_congr fun _ => h.isChain_iff

end AgreeFrom

/-! ### Closed lists of names -/

/-- The names that references on lines mention, in order. -/
def mentions (d : Delimiters) (lines : List Text) : List Text :=
  lines.flatMap fun line => ((segmentsOf d line).filterMap Segment.reference?).map Reference.name

theorem Refers.name_mem_mentions {r : Reference} (h : Refers d lines r) :
    r.name ∈ mentions d lines := by
  obtain ⟨line, hline, hr⟩ := h
  refine List.mem_flatMap.2 ⟨line, hline, List.mem_map.2 ⟨r, ?_, rfl⟩⟩
  exact List.mem_filterMap.2 ⟨.reference r, hr, rfl⟩

/-- Names are closed if the bodies under them mention no others. -/
def ClosedNames (d : Delimiters) (table : Table Text (List Text)) (names : List Text) : Prop :=
  ∀ name ∈ names, ∀ other ∈ mentions d ((table.get? name).getD []), other ∈ names

theorem ClosedNames.name_mem {names : List Text} (hnames : ClosedNames d table names)
    {r : Reference} : ∀ {first : List Reference} {lines : List Text},
    (∀ name ∈ mentions d lines, name ∈ names) → IsChain d table lines (first ++ [r]) →
    r.name ∈ names
  | [], _, hlines, hchain => hlines _ hchain.1.name_mem_mentions
  | q :: _, _, hlines, hchain =>
      name_mem hnames (hnames q.name (hlines _ hchain.1.name_mem_mentions)) hchain.2

/-- Tables agree from the lines on if they agree on closed names among which are all that the lines
mention. -/
theorem AgreeFrom.of_closedNames {names : List Text} (hnames : ClosedNames d table names)
    (hlines : ∀ name ∈ mentions d lines, name ∈ names)
    (hsame : ∀ name ∈ names, table.get? name = table'.get? name) :
    AgreeFrom d table table' lines := by
  rintro r ⟨first, hchain⟩
  exact hsame r.name (hnames.name_mem hlines hchain)

/-! ### Equal runs, level by level -/

section
variable {inner inner' : Body σ Text → Run σ (List Text)} {line : Text}

theorem expandSegment_congr {segment : Segment}
    (h : ∀ r, segment = .reference r → table.get? r.name = table'.get? r.name ∧
      ∀ body, table.get? r.name = some body → inner (.fixed body) = inner' (.fixed body)) :
    expandSegment (Scope.ofTable table filters) inner line segment =
      expandSegment (Scope.ofTable table' filters) inner' line segment := by
  cases segment with
  | literal t => rfl
  | reference r =>
      obtain ⟨hbody, hinner⟩ := h r rfl
      simp only [expandSegment, Scope.ofTable, pure_bind, ← hbody]
      cases hr : table.get? r.name with
      | none => rfl
      | some body => simp only [Option.map_some, hinner body hr]

theorem expandLine_congr
    (h : ∀ r, .reference r ∈ segmentsOf d line → table.get? r.name = table'.get? r.name ∧
      ∀ body, table.get? r.name = some body → inner (.fixed body) = inner' (.fixed body)) :
    expandLine d (Scope.ofTable table filters) inner line =
      expandLine d (Scope.ofTable table' filters) inner' line := by
  have hsegments : (segmentsOf d line).mapM
        (expandSegment (Scope.ofTable table filters) inner line) =
      (segmentsOf d line).mapM (expandSegment (Scope.ofTable table' filters) inner' line) := by
    refine Run.mapM_congr fun segment hsegment => expandSegment_congr fun r hr => ?_
    subst hr
    exact h r hsegment
  unfold segmentsOf at hsegments
  simp only [expandLine, hsegments]

end

/-- Over tables that agree from the lines on, expansion is the same run. -/
theorem expandBody_congr : ∀ (budget : Nat) (depth : Int) {lines : List Text},
    AgreeFrom d table table' lines →
    expandBody d (Scope.ofTable table filters) budget depth (.fixed lines) =
      expandBody d (Scope.ofTable table' filters) budget depth (.fixed lines)
  | 0, _, _, _ => rfl
  | budget + 1, depth, lines, h => by
      have hline : ∀ line ∈ lines,
          expandLine d (Scope.ofTable table filters)
              (expandBody d (Scope.ofTable table filters) budget (depth + 1)) line =
            expandLine d (Scope.ofTable table' filters)
              (expandBody d (Scope.ofTable table' filters) budget (depth + 1)) line := by
        intro line hmem
        refine expandLine_congr fun r hr => ?_
        have hrefers : Refers d lines r := ⟨line, hmem, hr⟩
        refine ⟨h.get? hrefers, fun body hbody => expandBody_congr budget (depth + 1) ?_⟩
        have htarget := h.target hrefers
        unfold Expansion.target at htarget
        rwa [hbody] at htarget
      rw [expandBody_fixed, expandBody_fixed, Run.collect_congr fun line hmem =>
        congrArg (Run.mapFault (onLine line)) (hline line hmem)]

/-- **Only reachable blocks matter.** Let two tables have the same body, or none, under every name that
references lead to from the lines. Then expanding the lines over one or the other is the same run, whatever
the filters do: from every state it ends in the same lines or the same fault with the same causes. The
names in question are the same ones in both tables. -/
theorem expand_of_agreeFrom {settings : Settings}
    (h : AgreeFrom settings.delimiters table table' lines) (filters : Filters σ) (stack : Nat) :
    expand settings stack (Scope.ofTable table filters) (.fixed lines) =
        expand settings stack (Scope.ofTable table' filters) (.fixed lines) ∧
      ∀ r, Reaches settings.delimiters table lines r ↔ Reaches settings.delimiters table' lines r :=
  ⟨congrArg (Run.withRoom settings stack) (expandBody_congr _ _ h), fun _ => h.reaches_iff⟩

/-- Over two tables in another order, whose block `c` differs and is out of reach, an expansion fails in the
same way, two blocks below the line it starts on. -/
theorem expand_fails_alike :
    let a : Text × List Text := (['a'], ["⦅b | add_comma⦆\n".toList, ['x']])
    let b : Text × List Text := (['b'], ["⦅gone⦆".toList])
    let table : Table Text (List Text) := [a, b, (['c'], ["⦅a⦆".toList])]
    let table' : Table Text (List Text) := [(['c'], ["⦅c⦆".toList]), b, a]
    let fault : Fault := ⟨.problem (.lineFailed "s ⦅a⦆".toList),
      [.problem (.lineFailed "⦅b | add_comma⦆".toList), .problem (.lineFailed "⦅gone⦆".toList),
        .problem (.unknownBlock "gone".toList "⦅gone⦆".toList)]⟩
    AgreeFrom {} table table' ["s ⦅a⦆\n".toList] ∧
    ((expand {} 9 (Scope.ofTable table Script.filters) (.fixed ["s ⦅a⦆\n".toList])).run
      (.fresh [])).result = .error fault ∧
    ((expand {} 9 (Scope.ofTable table' Script.filters) (.fixed ["s ⦅a⦆\n".toList])).run
      (.fresh [])).result = .error fault := by
  intro a b table table' fault
  have hlines : mentions {} ["s ⦅a⦆\n".toList] = [['a']] := by cbv
  have ha : mentions {} ["⦅b | add_comma⦆\n".toList, ['x']] = [['b']] := by cbv
  have hb : mentions {} ["⦅gone⦆".toList] = ["gone".toList] := by cbv
  have hnames : ClosedNames {} table [['a'], ['b'], "gone".toList] := by
    intro name hname
    fin_cases hname
    · show ∀ other ∈ mentions {} ["⦅b | add_comma⦆\n".toList, ['x']], _
      rw [ha]
      decide
    · show ∀ other ∈ mentions {} ["⦅gone⦆".toList], _
      rw [hb]
      decide
    · exact fun other hother => absurd hother List.not_mem_nil
  have hagree : AgreeFrom {} table table' ["s ⦅a⦆\n".toList] := by
    refine AgreeFrom.of_closedNames hnames ?_ (by decide)
    rw [hlines]
    decide
  have hfault : ((expand {} 9 (Scope.ofTable table Script.filters)
      (.fixed ["s ⦅a⦆\n".toList])).run (.fresh [])).result = .error fault := by decide +kernel
  refine ⟨hagree, hfault, ?_⟩
  rw [← (@expand_of_agreeFrom _ _ _ _ {} hagree Script.filters 9).1]
  exact hfault

end Expansion
end Literate
