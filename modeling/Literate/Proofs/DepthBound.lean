import Mathlib
import Literate.Proofs.Registered

/-! # The bound on expansion

References nest: a chain of references starts on the lines that are expanded, and goes on in the block
that each reference names. With filters that always give lines, and with every block and filter on the
way known, the bound is the only thing that can stop an expansion, and it does so exactly when some
chain is longer than it (`expand_bound_exact`). The fault then tells how deep the expansion got, below
one note for each level. A cycle of blocks has chains of every length, so no bound is large enough. And a
bound can be too large: where no room can be made for it, nothing is expanded at all
(`expand_refuses_large_bound`). -/

namespace Literate.Expansion

/-! ### Chains of references -/

/-- A reference stands on one of the lines. -/
def Refers (d : Delimiters) (lines : List Text) (r : Reference) : Prop :=
  ∃ line ∈ lines, .reference r ∈ segmentsOf d line

theorem refers_singleton {d : Delimiters} {line : Text} {r : Reference} :
    Refers d [line] r ↔ .reference r ∈ segmentsOf d line := by
  simp [Refers]

/-- The lines of the block that a reference names. -/
def target (table : Table Text (List Text)) (r : Reference) : List Text :=
  (table.get? r.name).getD []

/-- The first reference stands on the lines, and each other one in the block named by the reference
before it. -/
def IsChain (d : Delimiters) (table : Table Text (List Text)) : List Text → List Reference → Prop
  | _, [] => True
  | lines, r :: rest => Refers d lines r ∧ IsChain d table (target table r) rest

variable {d : Delimiters} {table : Table Text (List Text)} {registry : Registry}
  {lines : List Text}

theorem isChain_append {r : Reference} {rest : List Reference} : ∀ {first : List Reference}
    {lines : List Text}, IsChain d table lines (first ++ r :: rest) ↔
      IsChain d table lines (first ++ [r]) ∧ IsChain d table (target table r) rest
  | [], lines => by simp [IsChain]
  | q :: first, lines => by
      simp only [List.cons_append, IsChain]
      rw [isChain_append, and_assoc]

/-- A chain leads from the lines to a reference. -/
def Reaches (d : Delimiters) (table : Table Text (List Text)) (lines : List Text)
    (r : Reference) : Prop :=
  ∃ first, IsChain d table lines (first ++ [r])

/-- A chain goes through one block twice. -/
def ReachesCycle (d : Delimiters) (table : Table Text (List Text)) (lines : List Text) : Prop :=
  ∃ first r between again, IsChain d table lines (first ++ r :: (between ++ [again])) ∧
    again.name = r.name

/-- Every block and every filter on the way is known. -/
structure Closed (d : Delimiters) (table : Table Text (List Text)) (registry : Registry)
    (lines : List Text) : Prop where
  known : ∀ r, Reaches d table lines r → (table.get? r.name).isSome
  registered : ∀ r, Reaches d table lines r → ∀ name ∈ r.filters, (registry.function? name).isSome

theorem Refers.reaches {r : Reference} (h : Refers d lines r) : Reaches d table lines r :=
  ⟨[], h, trivial⟩

theorem Closed.target {r : Reference} (h : Closed d table registry lines)
    (hr : Refers d lines r) : Closed d table registry (target table r) where
  known q := fun ⟨first, hq⟩ => h.known q ⟨r :: first, hr, hq⟩
  registered q := fun ⟨first, hq⟩ => h.registered q ⟨r :: first, hr, hq⟩

/-- What holds of every reference on the lines and in the table holds of all that are reached. -/
theorem Reaches.of_refers {P : Reference → Prop}
    (htable : ∀ entry ∈ table, ∀ r, Refers d entry.2 r → P r) {r : Reference} :
    ∀ {first : List Reference} {lines : List Text}, (∀ r, Refers d lines r → P r) →
      IsChain d table lines (first ++ [r]) → P r
  | [], _, hlines, hchain => hlines r hchain.1
  | q :: first, lines, hlines, hchain => by
      refine of_refers htable (fun r hr => ?_) hchain.2
      unfold Expansion.target at hr
      cases hbody : table.get? q.name with
      | none =>
          rw [hbody] at hr
          obtain ⟨line, hline, -⟩ := hr
          cases hline
      | some body =>
          rw [hbody] at hr
          obtain ⟨before, after, hentries, -⟩ := List.lookup_eq_some_iff.1 hbody
          exact htable (q.name, body) (by rw [hentries]; simp) r hr

/-- If the blocks and filters of all references are known, so are those on the way. -/
theorem Closed.of_known
    (hlines : ∀ r, Refers d lines r → (table.get? r.name).isSome ∧
      ∀ name ∈ r.filters, (registry.function? name).isSome)
    (htable : ∀ entry ∈ table, ∀ r, Refers d entry.2 r → (table.get? r.name).isSome ∧
      ∀ name ∈ r.filters, (registry.function? name).isSome) :
    Closed d table registry lines where
  known _ := fun ⟨_, hchain⟩ => (Reaches.of_refers htable hlines hchain).1
  registered _ := fun ⟨_, hchain⟩ => (Reaches.of_refers htable hlines hchain).2

theorem ReachesCycle.long (h : ReachesCycle d table lines) (n : Nat) :
    ∃ chain, IsChain d table lines chain ∧ n ≤ chain.length := by
  obtain ⟨first, r, between, again, hchain, hname⟩ := h
  obtain ⟨hfirst, hround⟩ := isChain_append.1 hchain
  have htarget : target table again = target table r := by
    unfold target
    rw [hname]
  have hrounds : ∀ n, ∃ rounds, IsChain d table (target table r) rounds ∧ n ≤ rounds.length := by
    intro n
    induction n with
    | zero => exact ⟨[], trivial, le_rfl⟩
    | succ n ih =>
        obtain ⟨rounds, hrounds, hlength⟩ := ih
        refine ⟨between ++ again :: rounds, isChain_append.2 ⟨hround, ?_⟩, ?_⟩
        · rw [htarget]
          exact hrounds
        · rw [List.length_append, List.length_cons]
          omega
  obtain ⟨rounds, hrounds, hlength⟩ := hrounds n
  refine ⟨first ++ r :: rounds, isChain_append.2 ⟨hfirst, hrounds⟩, ?_⟩
  rw [List.length_append, List.length_cons]
  omega

/-! ### Faults of the bound -/

/-- The bound was met at a depth, below a note on each of `notes` lines, and nothing else is said. -/
def TooDeep (notes : Nat) (depth : Int) (fault : Fault) : Prop :=
  ∃ noted : List Text, noted.length = notes ∧
    fault.chain = noted.map (fun line => .problem (.lineFailed line)) ++
      [.problem (.expansionTooDeep depth)]

theorem TooDeep.onLine {notes : Nat} {depth : Int} {fault : Fault} (h : TooDeep notes depth fault)
    (line : Text) : TooDeep (notes + 1) depth (onLine line fault) := by
  obtain ⟨noted, hlength, hchain⟩ := h
  have hproblem : fault.isProblem = true := by
    unfold Fault.chain at hchain
    unfold Fault.isProblem
    cases noted with
    | nil => rw [(List.cons.inj hchain).1]
    | cons first rest => rw [(List.cons.inj hchain).1]
  refine ⟨Text.stripEnd line :: noted, by simp [hlength], ?_⟩
  unfold Expansion.onLine
  rw [if_pos hproblem]
  show .problem _ :: fault.chain = _
  rw [hchain]
  rfl

theorem TooDeep.kind {notes : Nat} {depth : Int} {fault : Fault} (h : TooDeep notes depth fault) :
    fault.kind = .bound := by
  obtain ⟨noted, -, hchain⟩ := h
  unfold Fault.kind
  rw [hchain]
  clear hchain
  induction noted with
  | nil => rfl
  | cons first rest ih => exact ih

theorem TooDeep.root {notes : Nat} {depth : Int} {fault : Fault} (h : TooDeep notes depth fault) :
    fault.root = .problem (.expansionTooDeep depth) := by
  obtain ⟨noted, -, hchain⟩ := h
  have hroot : fault.chain.getLast? = some fault.root := by
    unfold Fault.chain Fault.root
    rw [List.getLast?_cons, List.getLastD_eq_getLast?]
  rw [hchain, List.getLast?_concat] at hroot
  exact (Option.some.inj hroot).symm

/-! ### One step of expansion -/

section
variable {inner : List Text → Except Fault (List Text)} {line : Text}

theorem lineMeaning_ok_of_refs (htotal : registry.Total) (hclosed : Closed d table registry lines)
    (hline : line ∈ lines)
    (hinner : ∀ r, Refers d lines r → ∃ out, inner (target table r) = .ok out) :
    ∃ out, lineMeaning d table registry inner line = .ok out := by
  have hsegment : ∀ s ∈ segmentsOf d line,
      ∃ piece, segmentMeaning table registry inner line s = .ok piece := by
    intro s hs
    cases s with
    | literal t => exact ⟨.literal t, rfl⟩
    | reference r =>
        have hr : Refers d lines r := ⟨line, hline, hs⟩
        obtain ⟨body, hbody⟩ := Option.isSome_iff_exists.1 (hclosed.known r hr.reaches)
        obtain ⟨expanded, hexpanded⟩ := hinner r hr
        obtain ⟨filtered, hfiltered⟩ :=
          Registry.apply_total htotal (hclosed.registered r hr.reaches) expanded
        unfold target at hexpanded
        rw [hbody] at hexpanded
        refine ⟨.lines filtered, ?_⟩
        simp only [segmentMeaning, hbody]
        exact Result.bind_eq_ok.2
          ⟨expanded, hexpanded, Result.bind_eq_ok.2 ⟨filtered, hfiltered, rfl⟩⟩
  obtain ⟨pieces, hpieces⟩ := Result.exists_mapM_eq_ok.2 hsegment
  unfold lineMeaning
  split
  · exact ⟨_, Result.bind_eq_ok.2 ⟨pieces, hpieces, rfl⟩⟩
  · exact ⟨_, rfl⟩

theorem refs_ok_of_lineMeaning {out : List Text}
    (h : lineMeaning d table registry inner line = .ok out) {r : Reference}
    (hr : .reference r ∈ segmentsOf d line) : ∃ expanded, inner (target table r) = .ok expanded := by
  have href : ((segmentsOf d line).any fun s => s.reference?.isSome) = true :=
    List.any_eq_true.2 ⟨_, hr, rfl⟩
  unfold lineMeaning at h
  rw [if_pos href] at h
  obtain ⟨pieces, hpieces, -⟩ := Result.bind_eq_ok.1 h
  obtain ⟨piece, hpiece⟩ := Result.exists_mapM_eq_ok.1 ⟨pieces, hpieces⟩ _ hr
  unfold target
  simp only [segmentMeaning] at hpiece
  cases hbody : table.get? r.name with
  | none => simp [hbody] at hpiece
  | some body =>
      simp only [hbody, Result.bind_eq_ok] at hpiece
      obtain ⟨expanded, hexpanded, -⟩ := hpiece
      exact ⟨expanded, hexpanded⟩

/-- If a line does not expand, then the block of a reference on it does not, for the same reason. -/
theorem ref_error_of_lineMeaning (htotal : registry.Total)
    (hclosed : Closed d table registry lines) (hline : line ∈ lines) {fault : Fault}
    (h : lineMeaning d table registry inner line = .error fault) :
    ∃ r, Refers d lines r ∧ inner (target table r) = .error fault := by
  have hm : (segmentsOf d line).mapM (segmentMeaning table registry inner line) =
      .error fault := by
    unfold lineMeaning at h
    split at h
    · rcases Result.bind_eq_error.1 h with hm | ⟨pieces, -, hout⟩
      · exact hm
      · cases hout
    · cases h
  obtain ⟨before, s, after, hl, -, hs⟩ := Result.mapM_eq_error.1 hm
  cases s with
  | literal t => cases hs
  | reference r =>
      have hr : Refers d lines r := ⟨line, hline, by rw [hl]; simp⟩
      obtain ⟨body, hbody⟩ := Option.isSome_iff_exists.1 (hclosed.known r hr.reaches)
      have htarget : target table r = body := by
        unfold target
        rw [hbody]
        rfl
      refine ⟨r, hr, ?_⟩
      rw [htarget]
      simp only [segmentMeaning, hbody] at hs
      rcases Result.bind_eq_error.1 hs with hinner | ⟨expanded, -, hs⟩
      · exact hinner
      · obtain ⟨filtered, hfiltered⟩ :=
          Registry.apply_total htotal (hclosed.registered r hr.reaches) expanded
        rw [hfiltered] at hs
        cases hs

end

/-! ### Whole expansions -/

/-- Lines expand if all chains of references on them are shorter than the budget. -/
theorem meaning_ok_of_short (htotal : registry.Total) : ∀ (budget : Nat) (depth : Int)
    (lines : List Text), Closed d table registry lines →
    (∀ chain, IsChain d table lines chain → chain.length < budget) →
    ∃ out, meaning d table registry budget depth lines = .ok out
  | 0, _, _, _, hshort => absurd (hshort [] trivial) (by simp)
  | budget + 1, depth, lines, hclosed, hshort => by
      have hinner : ∀ r, Refers d lines r →
          ∃ out, meaning d table registry budget (depth + 1) (target table r) = .ok out := by
        intro r hr
        refine meaning_ok_of_short htotal budget (depth + 1) _ (hclosed.target hr) ?_
        intro chain hchain
        have := hshort (r :: chain) ⟨hr, hchain⟩
        rw [List.length_cons] at this
        omega
      have hparts : ∃ parts, lines.mapM (lineMeaning d table registry
          (meaning d table registry budget (depth + 1))) = .ok parts :=
        Result.exists_mapM_eq_ok.2 fun line hline =>
          lineMeaning_ok_of_refs htotal hclosed hline hinner
      obtain ⟨parts, hparts⟩ := hparts
      exact ⟨parts.flatten, meaning_eq_ok.2 ⟨parts, Result.mapM_eq_ok.1 hparts, rfl⟩⟩

/-- Lines that expand hold only chains of references shorter than the budget. -/
theorem short_of_meaning_ok : ∀ {budget : Nat} {depth : Int} {lines out : List Text},
    meaning d table registry budget depth lines = .ok out →
    ∀ {chain : List Reference}, IsChain d table lines chain → chain.length < budget
  | 0, _, _, _, h, _, _ => by simp [meaning] at h
  | budget + 1, _, _, _, _, [], _ => by simp
  | budget + 1, depth, lines, out, h, r :: rest, ⟨⟨line, hline, hr⟩, hrest⟩ => by
      obtain ⟨parts, hparts, -⟩ := meaning_eq_ok.1 h
      obtain ⟨part, hpart⟩ := Result.exists_mapM_eq_ok.1 ⟨parts, Result.mapM_eq_ok.2 hparts⟩ line hline
      obtain ⟨expanded, hexpanded⟩ := refs_ok_of_lineMeaning hpart hr
      have := short_of_meaning_ok hexpanded hrest
      rw [List.length_cons]
      omega

/-- Where only the bound can stop an expansion, a fault is the bound met at the end of the budget. -/
theorem tooDeep_of_meaning_error (htotal : registry.Total) : ∀ {budget : Nat} {depth : Int}
    {lines : List Text} {fault : Fault}, Closed d table registry lines →
    meaning d table registry budget depth lines = .error fault →
    TooDeep budget (depth + budget) fault
  | 0, depth, _, _, _, h => by
      refine ⟨[], rfl, ?_⟩
      rw [← Except.error.inj h, Nat.cast_zero, add_zero]
      rfl
  | budget + 1, depth, lines, fault, hclosed, h => by
      have hm : (lines.mapM fun line => (lineMeaning d table registry
          (meaning d table registry budget (depth + 1)) line).mapError (onLine line)) =
          .error fault := by
        unfold meaning at h
        rcases Result.bind_eq_error.1 h with hm | ⟨parts, -, hout⟩
        · exact hm
        · cases hout
      obtain ⟨before, line, after, hl, -, hline⟩ := Result.mapM_eq_error.1 hm
      obtain ⟨e, he, rfl⟩ := Result.mapError_eq_error.1 hline
      obtain ⟨r, hr, hinner⟩ :=
        ref_error_of_lineMeaning htotal hclosed (by rw [hl]; simp) he
      have hdeep := tooDeep_of_meaning_error htotal (hclosed.target hr) hinner
      have hdepth : depth + ((budget + 1 : Nat) : Int) = depth + 1 + budget := by
        push_cast
        ring
      rw [hdepth]
      exact hdeep.onLine line

/-- **The bound is exact and otherwise unobservable.** Where every block and filter on the way is known
and filters always give lines, and room can be made for the bound, an expansion succeeds if and only if no
chain of references on the lines is longer than the bound, hence never if a cycle is reached. If it
succeeds, every larger bound that room can be made for gives the same lines. If it does not, the bound was
met one level below it, and a note on a line stands above that for each level. A bound that no room can be
made for is refused. -/
theorem expand_bound_exact {σ : Type} {filters : Filters σ} {I : σ → Prop} {settings : Settings}
    (hpure : filters.PureOn I registry) (htotal : registry.Total)
    (hclosed : Closed settings.delimiters table registry lines) {s : σ} (hs : I s)
    (stack maxDepth : Nat) :
    let result (bound : Nat) := ((expand (bounded settings bound) stack (Scope.ofTable table filters)
      (.fixed lines)).run s).result
    let fits (bound : Nat) : Prop := (bounded settings bound).Fits stack
    (fits maxDepth → ((∃ out, result maxDepth = .ok out) ↔
      ∀ chain, IsChain settings.delimiters table lines chain → chain.length ≤ maxDepth)) ∧
    (ReachesCycle settings.delimiters table lines → ∀ out, result maxDepth ≠ .ok out) ∧
    (∀ out, result maxDepth = .ok out →
      ∀ larger, maxDepth ≤ larger → fits larger → result larger = .ok out) ∧
    (fits maxDepth → ∀ fault, result maxDepth = .error fault →
      fault.kind = .bound ∧ fault.root = .problem (.expansionTooDeep (maxDepth + 1)) ∧
      ∃ noted : List Text, noted.length = maxDepth + 1 ∧
        fault.chain = noted.map (fun line => .problem (.lineFailed line)) ++
          [.problem (.expansionTooDeep (maxDepth + 1))]) ∧
    (¬fits maxDepth → result maxDepth = .error (.ofFailure noRoom)) := by
  intro result fits
  have hresult (bound : Nat) (h : fits bound) :
      result bound = meaning settings.delimiters table registry (bound + 1) 0 lines := by
    have hbudget : budget bound 0 = bound + 1 := by
      unfold budget
      omega
    rw [← hbudget]
    exact expand_result hpure hs h lines
  have hlong (out : List Text) (hout : result maxDepth = .ok out) :
      ∀ chain, IsChain settings.delimiters table lines chain → chain.length ≤ maxDepth := by
    rw [hresult maxDepth (fits_of_expand hout)] at hout
    exact fun chain hchain => Nat.lt_succ_iff.1 (short_of_meaning_ok hout hchain)
  refine ⟨fun hfits => ⟨fun ⟨out, hout⟩ => hlong out hout, fun hshort => ?_⟩, ?_, ?_, ?_, expand_refused⟩
  · rw [hresult maxDepth hfits]
    exact meaning_ok_of_short htotal _ _ _ hclosed fun chain hchain =>
      Nat.lt_succ_iff.2 (hshort chain hchain)
  · intro hcycle out hout
    obtain ⟨chain, hchain, hlength⟩ := hcycle.long (maxDepth + 1)
    have := hlong out hout chain hchain
    omega
  · intro out hout larger hle hfits
    rw [hresult maxDepth (fits_of_expand hout)] at hout
    rw [hresult larger hfits]
    exact meaning_mono (fun _ _ h => h) (by omega) hout
  · intro hfits fault hfault
    rw [hresult maxDepth hfits] at hfault
    have hdeep := tooDeep_of_meaning_error htotal hclosed hfault
    have hdepth : (0 : Int) + ((maxDepth + 1 : Nat) : Int) = maxDepth + 1 := by
      push_cast
      ring
    rw [hdepth] at hdeep
    exact ⟨hdeep.kind, hdeep.root, hdeep⟩

/-- Two blocks that refer to each other, one through a filter, run into the bound. -/
theorem expand_cycle_stops :
    let table := [(['a'], ["b: ⦅b | add_comma⦆\n".toList]), (['b'], ["⦅a⦆".toList])]
    let context := Script.Context.fresh []
    let lines := ["⦅a⦆\n".toList]
    Closed {} table context.registry lines ∧ ReachesCycle {} table lines ∧
    ∃ fault, ((expand (bounded {} (2 : Nat)) 9 (Scope.ofTable table Script.filters) (.fixed lines)).run
        context).result = .error fault ∧
      fault.kind = .bound ∧ fault.root = .problem (.expansionTooDeep 3) := by
  intro table context lines
  have hstart : segmentsOf {} "⦅a⦆\n".toList =
      [.reference ⟨['a'], [], "⦅a⦆".toList⟩, .literal ['\n']] := by cbv
  have ha : segmentsOf {} "b: ⦅b | add_comma⦆\n".toList =
      [.literal "b: ".toList, .reference ⟨['b'], ["add_comma".toList], "⦅b | add_comma⦆".toList⟩,
        .literal ['\n']] := by cbv
  have hb : segmentsOf {} "⦅a⦆".toList = [.reference ⟨['a'], [], "⦅a⦆".toList⟩] := by cbv
  have hclosed : Closed {} table context.registry lines := by
    refine Closed.of_known (fun r hr => ?_) (fun entry hentry r hr => ?_)
    · rw [refers_singleton, hstart] at hr
      obtain rfl : r = ⟨['a'], [], "⦅a⦆".toList⟩ := by simpa using hr
      exact ⟨rfl, by simp⟩
    · rcases List.mem_pair.1 hentry with rfl | rfl
      · rw [refers_singleton, ha] at hr
        obtain rfl : r = ⟨['b'], ["add_comma".toList], "⦅b | add_comma⦆".toList⟩ := by simpa using hr
        refine ⟨rfl, fun name hname => ?_⟩
        rw [List.mem_singleton.1 hname]
        cbv
      · rw [refers_singleton, hb] at hr
        obtain rfl : r = ⟨['a'], [], "⦅a⦆".toList⟩ := by simpa using hr
        exact ⟨rfl, by simp⟩
  have hcycle : ReachesCycle {} table lines := by
    refine ⟨[], ⟨['a'], [], "⦅a⦆".toList⟩,
      [⟨['b'], ["add_comma".toList], "⦅b | add_comma⦆".toList⟩], ⟨['a'], [], "⦅a⦆".toList⟩, ?_, rfl⟩
    refine ⟨refers_singleton.2 ?_, refers_singleton.2 ?_, refers_singleton.2 ?_, trivial⟩
    · rw [hstart]
      simp
    · rw [ha]
      simp
    · rw [hb]
      simp
  have hfresh := Script.Context.fresh_builtinFilters []
  have hfits : (bounded {} (2 : Nat)).Fits 9 := by decide
  obtain ⟨-, hnever, -, hfault, -⟩ := @expand_bound_exact _ _ _ _ _ _ {}
    (Script.filters_pureOn hfresh.plain) hfresh.total hclosed context rfl 9 2
  refine ⟨hclosed, hcycle, ?_⟩
  cases hresult : ((expand (bounded {} (2 : Nat)) 9 (Scope.ofTable table Script.filters)
      (.fixed lines)).run context).result with
  | ok out => exact absurd hresult (hnever hcycle out)
  | error fault =>
      obtain ⟨hkind, hroot, -⟩ := hfault hfits fault hresult
      exact ⟨fault, rfl, hkind, hroot⟩

/-- A line without references expands under the bound 0, but not under a bound that no room can be made
for. -/
theorem expand_refuses_large_bound :
    let result (bound : Nat) := ((expand (bounded {} bound) 9 (Scope.ofTable [] Script.filters)
      (.fixed ["x".toList])).run (Script.Context.fresh [])).result
    (∀ chain, IsChain {} [] ["x".toList] chain → chain.length ≤ 0) ∧ result 0 = .ok ["x".toList] ∧
      result 1073741824 = .error (.ofFailure noRoom) := by
  have hx : segmentsOf {} "x".toList = [.literal "x".toList] := by cbv
  refine ⟨fun chain hchain => ?_, by decide +kernel, by decide +kernel⟩
  cases chain with
  | nil => exact le_rfl
  | cons r rest =>
      have hr := refers_singleton.1 hchain.1
      rw [hx] at hr
      simp at hr

end Literate.Expansion
