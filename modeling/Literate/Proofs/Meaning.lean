import Mathlib
import Literate.Expansion
import Literate.Filter
import Literate.Table
import Literate.Proofs.Run
import Literate.Proofs.Segment

/-! # Expansion as a function

Expansion runs filters, and filters may act on a state. Where they only compute, expansion does too:
what it ends in is a function of the blocks, the filters and the lines (`expandBody_means`). The
function `meaning` has the recursion of `expandBody` without the state, and the statements about
expansion over a table of blocks are proved for it.

Filters that only compute are described by a `Registry`: a function for each name. `Filters.PureOn`
says that the filters a run finds are these functions in all states of a set `I`, and that no filter
leaves the set. -/

namespace Literate

variable {σ : Type}

/-! ### Filters and what they compute -/

/-- Where filters are found, and how values look to them. -/
structure Filters (σ : Type) where
  find? : Text → Run σ (Option (Filter σ))
  view : Run σ ValueView

/-- The lines that a chain of filters makes of lines. -/
def Filters.apply (filters : Filters σ) (names lines : List Text) : Run σ (List Text) := do
  let items ← Filter.chain filters.find? names (lines.map .text)
  Run.ofResult (Filter.texts (← filters.view) items)

/-- The scope in which references lead to the blocks of a table. -/
def Scope.ofTable (table : Table Text (List Text)) (filters : Filters σ) : Scope σ Text where
  body? name := pure ((table.get? name).map .fixed)
  line? line := pure (some line)
  ofText := id
  filter := filters.apply

/-- Filters as functions: what stands under a name, and how values look. -/
structure Registry where
  function? : Text → Option (List Value → Except Fault (List Value))
  view : ValueView := {}

/-- In the states of `I` the filters are the functions of `registry`, and they stay in `I`. -/
structure Filters.PureOn (filters : Filters σ) (I : σ → Prop) (registry : Registry) : Prop where
  absent : ∀ name, registry.function? name = none → (filters.find? name).Means I (.ok none)
  present : ∀ name g, registry.function? name = some g →
    ∃ f, (filters.find? name).Means I (.ok (some f)) ∧ ∀ items, (f items).Means I (g items)
  view : filters.view.Means I (.ok registry.view)

namespace Registry

variable (registry : Registry)

/-- Look up every name of a chain. -/
def lookUp : List Text → Except Fault (List (Text × (List Value → Except Fault (List Value))))
  | [] => pure []
  | name :: rest => do
    match registry.function? name with
    | none => .error (.ofProblem (.unknownFilter name))
    | some g => return (name, g) :: (← lookUp rest)

/-- Apply functions from left to right. -/
def runAll : List (Text × (List Value → Except Fault (List Value))) → List Value →
    Except Fault (List Value)
  | [], items => pure items
  | (name, g) :: rest, items => do runAll rest (← (g items).mapError (Filter.blame name))

/-- Apply a chain of filters, given by name. -/
def chain (names : List Text) (items : List Value) : Except Fault (List Value) := do
  runAll (← registry.lookUp names) items

/-- The lines that a chain of filters makes of lines. -/
def apply (names lines : List Text) : Except Fault (List Text) := do
  let items ← (do runAll (← registry.lookUp names) (lines.map .text))
  (Filter.texts registry.view items).mapError Fault.ofFailure

theorem texts_map_text (view : ValueView) : ∀ lines : List Text,
    Filter.texts view (lines.map .text) = .ok lines
  | [] => rfl
  | line :: lines => by
      rw [List.map_cons, Filter.texts, texts_map_text view lines]
      rfl

theorem apply_nil (lines : List Text) : registry.apply [] lines = .ok lines := by
  show (Filter.texts registry.view (lines.map .text)).mapError Fault.ofFailure = .ok lines
  rw [texts_map_text]
  rfl

end Registry

/-- Filters that make lines of lines, whatever the lines are. -/
def Registry.Total (registry : Registry) : Prop :=
  ∀ name g, registry.function? name = some g →
    ∀ lines : List Text, ∃ out : List Text, g (lines.map .text) = .ok (out.map .text)

theorem Registry.apply_total {registry : Registry} (h : registry.Total) {names : List Text}
    (hnames : ∀ name ∈ names, (registry.function? name).isSome) (lines : List Text) :
    ∃ out, registry.apply names lines = .ok out := by
  have hrun : ∃ out : List Text, (do Registry.runAll (← registry.lookUp names) (lines.map .text)) =
      .ok (out.map .text) := by
    induction names generalizing lines with
    | nil => exact ⟨lines, rfl⟩
    | cons name rest ih =>
        obtain ⟨g, hg⟩ := Option.isSome_iff_exists.1 (hnames name List.mem_cons_self)
        obtain ⟨next, hnext⟩ := h name g hg lines
        obtain ⟨out, hout⟩ := ih (fun other hm => hnames other (List.mem_cons_of_mem _ hm)) next
        refine ⟨out, ?_⟩
        obtain ⟨functions, hfunctions, hrest⟩ := Result.bind_eq_ok.1 hout
        refine Result.bind_eq_ok.2 ⟨(name, g) :: functions, ?_, ?_⟩
        · simp [Registry.lookUp, hg, hfunctions]
        · rw [Registry.runAll, hnext]
          exact hrest
  obtain ⟨out, hout⟩ := hrun
  refine ⟨out, Result.bind_eq_ok.2 ⟨_, hout, ?_⟩⟩
  rw [Registry.texts_map_text]
  rfl

section
variable {filters : Filters σ} {I : σ → Prop} {registry : Registry}

/-- Filters found one after the other and the functions that describe them. -/
def Filters.Described (I : σ → Prop) (found : List (Text × Filter σ))
    (functions : List (Text × (List Value → Except Fault (List Value)))) : Prop :=
  List.Forall₂ (fun f g => f.1 = g.1 ∧ ∀ items, (f.2 items).Means I (g.2 items)) found functions

/-- A chain is looked up to filters that the functions describe, or the first unknown name is
reported. -/
theorem Filters.PureOn.lookUp (h : filters.PureOn I registry) : ∀ names : List Text,
    (∃ fault, registry.lookUp names = .error fault ∧
      (Filter.lookUp filters.find? names).Means I (.error fault)) ∨
    ∃ found functions, registry.lookUp names = .ok functions ∧
      (Filter.lookUp filters.find? names).Means I (.ok found) ∧ Described I found functions
  | [] => .inr ⟨[], [], rfl, Run.means_pure [], .nil⟩
  | name :: rest => by
      cases hg : registry.function? name with
      | none =>
          refine .inl ⟨.ofProblem (.unknownFilter name), ?_, ?_⟩
          · simp [Registry.lookUp, hg]
          · exact (h.absent name hg).bind_ok (Run.means_problem _)
      | some g =>
          obtain ⟨f, hf, hfg⟩ := h.present name g hg
          rcases lookUp h rest with ⟨fault, e, hm⟩ | ⟨found, functions, e, hm, hd⟩
          · refine .inl ⟨fault, ?_, ?_⟩
            · simp [Registry.lookUp, hg, e]
            · exact hf.bind_ok hm.bind_error
          · refine .inr ⟨(name, f) :: found, (name, g) :: functions, ?_, ?_, .cons ⟨rfl, hfg⟩ hd⟩
            · simp [Registry.lookUp, hg, e]
            · exact hf.bind_ok (hm.bind_ok (Run.means_pure _))

theorem Filters.Described.runAll {found : List (Text × Filter σ)}
    {functions : List (Text × (List Value → Except Fault (List Value)))}
    (h : Described I found functions) : ∀ items : List Value,
    (Filter.runAll found items).Means I (Registry.runAll functions items) := by
  induction h with
  | nil => exact fun items => Run.means_pure items
  | @cons f g found functions hfg _ ih =>
      intro items
      obtain ⟨name, f⟩ := f
      obtain ⟨_, g⟩ := g
      obtain ⟨rfl, hfg⟩ := hfg
      exact (hfg items).mapFault.bind ih

theorem Filters.PureOn.chain (h : filters.PureOn I registry) (names : List Text)
    (items : List Value) :
    (Filter.chain filters.find? names items).Means I (registry.chain names items) := by
  unfold Registry.chain
  rcases h.lookUp names with ⟨fault, e, hm⟩ | ⟨found, functions, e, hm, hd⟩
  · rw [e]
    exact hm.bind_error
  · rw [e]
    exact hm.bind_ok (hd.runAll _)

theorem Filters.PureOn.apply (h : filters.PureOn I registry) (names lines : List Text) :
    (filters.apply names lines).Means I (registry.apply names lines) := by
  refine (h.chain names (lines.map .text)).bind fun items => h.view.bind_ok ?_
  cases Filter.texts registry.view items with
  | error failure => exact Run.means_fail _
  | ok texts => exact Run.means_pure texts

end

/-! ### Expansion -/

namespace Expansion

open Text

variable (d : Delimiters) (table : Table Text (List Text)) (registry : Registry)

/-- What one segment of a line becomes; `inner` expands the body of a block. -/
def segmentMeaning (inner : List Text → Except Fault (List Text)) (line : Text) :
    Segment → Except Fault Piece
  | .literal t => pure (.literal t)
  | .reference r =>
    match table.get? r.name with
    | none => .error (.ofProblem (.unknownBlock r.name (strip line)))
    | some body => do return .lines (← registry.apply r.filters (← inner body))

/-- The segments of a line behind its indentation. -/
def segmentsOf (line : Text) : List Segment := Segment.tokenize d (line.dropWhile isIndent)

theorem takeWhile_append_segments (d : Delimiters) (line : Text) :
    line.takeWhile isIndent ++ (segmentsOf d line).flatMap Segment.raw = line := by
  unfold segmentsOf Segment.tokenize
  rw [(Segment.flatMap_raw_scan d none _).1, List.takeWhile_append_dropWhile]

/-- What one line becomes. -/
def lineMeaning (inner : List Text → Except Fault (List Text)) (line : Text) :
    Except Fault (List Text) := do
  if (segmentsOf d line).any fun s => s.reference?.isSome then
    return splice (line.takeWhile isIndent)
      (← (segmentsOf d line).mapM (segmentMeaning table registry inner line))
  else return [line]

/-- What lines become at a depth; `budget` is how much deeper references may lead, plus one. -/
def meaning : Nat → Int → List Text → Except Fault (List Text)
  | 0, depth, _ => .error (.ofProblem (.expansionTooDeep depth))
  | budget + 1, depth, lines => do
    return (← lines.mapM fun line =>
      (lineMeaning d table registry (meaning budget (depth + 1)) line).mapError
        (onLine line)).flatten

variable {d table registry} {filters : Filters σ} {I : σ → Prop}

theorem expandSegment_means (h : filters.PureOn I registry)
    {outer : Body σ Text → Run σ (List Text)} {inner : List Text → Except Fault (List Text)}
    (hinner : ∀ body, (outer (.fixed body)).Means I (inner body)) (line : Text) (s : Segment) :
    (expandSegment (Scope.ofTable table filters) outer line s).Means I
      (segmentMeaning table registry inner line s) := by
  cases s with
  | literal t => exact Run.means_pure _
  | reference r =>
      refine Run.Means.bind_ok (Run.means_pure _) ?_
      simp only [segmentMeaning]
      cases table.get? r.name with
      | none => exact Run.means_problem _
      | some body =>
          exact (hinner body).bind fun lines =>
            (h.apply r.filters lines).bind fun lines => Run.means_pure _

theorem expandLine_means (h : filters.PureOn I registry)
    {outer : Body σ Text → Run σ (List Text)} {inner : List Text → Except Fault (List Text)}
    (hinner : ∀ body, (outer (.fixed body)).Means I (inner body)) (line : Text) :
    (expandLine d (Scope.ofTable table filters) outer line).Means I
      (lineMeaning d table registry inner line) := by
  unfold expandLine lineMeaning segmentsOf
  dsimp only
  split
  · exact (Run.Means.mapM (expandSegment_means h hinner line) _).bind fun pieces =>
      Run.means_pure _
  · exact Run.means_pure _

theorem expandBody_fixed (filters : Filters σ) (budget : Nat) (depth : Int) (lines : List Text) :
    expandBody d (Scope.ofTable table filters) (budget + 1) depth (.fixed lines) = (do
      Run.progress 3 s!"Expanding {lines.length} lines at depth {depth}"
      Run.collect (fun line => (expandLine d (Scope.ofTable table filters)
        (expandBody d (Scope.ofTable table filters) budget (depth + 1)) line).mapFault (onLine line))
        lines) := by
  rw [expandBody]
  simp only [Scope.ofTable, Body.size, Body.collect, pure_bind, List.map_id, bind_pure]

/-- Over a table of blocks and with pure filters, expansion only computes. -/
theorem expandBody_means (h : filters.PureOn I registry) : ∀ (budget : Nat) (depth : Int)
    (lines : List Text),
    (expandBody d (Scope.ofTable table filters) budget depth (.fixed lines)).Means I
      (meaning d table registry budget depth lines)
  | 0, depth, _ => Run.means_problem _
  | budget + 1, depth, lines => by
      have hinner := expandBody_means h budget (depth + 1)
      rw [expandBody_fixed]
      refine Run.Means.bind_ok (Run.means_progress _ _) ?_
      exact Run.Means.collect (fun line => (expandLine_means h hinner line).mapFault) lines

/-- The settings with another bound on expansion. -/
def bounded (settings : Settings) (maxDepth : Int) : Settings :=
  { settings with maxMacroDepth := maxDepth }

section Expand

variable {settings : Settings} {stack : Nat} {scope : Scope σ Text} {body : Body σ Text} {s : σ}

/-- Where room can be made for the settings, expansion ends in what its function says. -/
theorem expand_result (h : filters.PureOn I registry) (hs : I s) (hfits : settings.Fits stack)
    (lines : List Text) :
    ((expand settings stack (Scope.ofTable table filters) (.fixed lines)).run s).result =
      meaning settings.delimiters table registry (budget settings.maxMacroDepth 0) 0 lines := by
  unfold expand
  rw [Run.withRoom_of_fits hfits]
  exact (expandBody_means h _ _ lines s hs).1

theorem expand_refused (hfits : ¬settings.Fits stack) :
    ((expand settings stack scope body).run s).result = .error (.ofFailure noRoom) := by
  unfold expand
  rw [Run.withRoom_of_not_fits hfits]
  rfl

theorem fits_of_expand {out : List Text}
    (h : ((expand settings stack scope body).run s).result = .ok out) : settings.Fits stack := by
  by_contra hfits
  rw [expand_refused hfits] at h
  cases h

end Expand

/-! ### Expansion that succeeds -/

section
variable {budget : Nat} {depth : Int} {lines out : List Text}

/-- Lines expand if each of them does, and their expansions stand one after the other. -/
theorem meaning_eq_ok : meaning d table registry (budget + 1) depth lines = .ok out ↔
    ∃ parts, List.Forall₂
      (fun line part =>
        lineMeaning d table registry (meaning d table registry budget (depth + 1)) line = .ok part)
      lines parts ∧ out = parts.flatten := by
  unfold meaning
  rw [Result.bind_eq_ok]
  simp only [Result.mapM_eq_ok, Result.mapError_eq_ok]
  constructor
  · rintro ⟨parts, hparts, h⟩
    exact ⟨parts, hparts, (Except.ok.inj h).symm⟩
  · rintro ⟨parts, hparts, rfl⟩
    exact ⟨parts, hparts, rfl⟩

theorem meaning_append (more : List Text) :
    meaning d table registry (budget + 1) depth (lines ++ more) = do
      let first ← meaning d table registry (budget + 1) depth lines
      let second ← meaning d table registry (budget + 1) depth more
      return first ++ second := by
  simp [meaning]

theorem meaning_append_eq_ok {more : List Text} :
    meaning d table registry (budget + 1) depth (lines ++ more) = .ok out ↔
      ∃ first second, meaning d table registry (budget + 1) depth lines = .ok first ∧
        meaning d table registry (budget + 1) depth more = .ok second ∧ out = first ++ second := by
  rw [meaning_append, Result.bind_eq_ok]
  simp only [Result.bind_eq_ok]
  constructor
  · rintro ⟨first, hfirst, second, hsecond, h⟩
    exact ⟨first, second, hfirst, hsecond, (Except.ok.inj h).symm⟩
  · rintro ⟨first, second, hfirst, hsecond, rfl⟩
    exact ⟨first, hfirst, second, hsecond, rfl⟩

theorem lineMeaning_of_quiet {inner : List Text → Except Fault (List Text)} {line : Text}
    (h : Segment.Quiet (segmentsOf d line)) :
    lineMeaning d table registry inner line = .ok [line] := by
  unfold lineMeaning
  rw [Segment.quiet_iff.1 h]
  rfl

/-- The table `table'` has every block of `table`, with the same body. -/
def Extends (table table' : Table Text (List Text)) : Prop :=
  ∀ name body, table.get? name = some body → table'.get? name = some body

variable {table' : Table Text (List Text)} {inner inner' : List Text → Except Fault (List Text)}

theorem segmentMeaning_mono (htable : Extends table table')
    (hinner : ∀ body out, inner body = .ok out → inner' body = .ok out) {line line' : Text}
    {s : Segment} {piece : Piece} (h : segmentMeaning table registry inner line s = .ok piece) :
    segmentMeaning table' registry inner' line' s = .ok piece := by
  cases s with
  | literal t => exact h
  | reference r =>
      simp only [segmentMeaning] at h ⊢
      cases hbody : table.get? r.name with
      | none => simp [hbody] at h
      | some body =>
          simp only [hbody, Result.bind_eq_ok] at h
          obtain ⟨expanded, hexpanded, filtered, hfiltered, hpiece⟩ := h
          simp only [htable r.name body hbody, Result.bind_eq_ok]
          exact ⟨expanded, hinner body expanded hexpanded, filtered, hfiltered, hpiece⟩

theorem lineMeaning_mono (htable : Extends table table')
    (hinner : ∀ body out, inner body = .ok out → inner' body = .ok out) {line : Text}
    (h : lineMeaning d table registry inner line = .ok out) :
    lineMeaning d table' registry inner' line = .ok out := by
  unfold lineMeaning at h ⊢
  split at h
  · next href =>
      obtain ⟨pieces, hpieces, hout⟩ := Result.bind_eq_ok.1 h
      rw [if_pos href, Result.bind_eq_ok]
      refine ⟨pieces, ?_, hout⟩
      rw [Result.mapM_eq_ok] at hpieces ⊢
      exact hpieces.imp fun s piece hs => segmentMeaning_mono htable hinner hs
  · next href =>
      rw [if_neg href]
      exact h

/-- More blocks and a larger bound keep an expansion that succeeds. -/
theorem meaning_mono (htable : Extends table table') : ∀ {budget budget' : Nat}
    {depth depth' : Int} {lines out : List Text}, budget ≤ budget' →
    meaning d table registry budget depth lines = .ok out →
    meaning d table' registry budget' depth' lines = .ok out
  | 0, _, _, _, _, _, _, h => by simp [meaning] at h
  | budget + 1, 0, _, _, _, _, hle, _ => by omega
  | budget + 1, budget' + 1, depth, depth', lines, out, hle, h => by
      rw [meaning_eq_ok] at h ⊢
      obtain ⟨parts, hparts, rfl⟩ := h
      have hinner : ∀ body out, meaning d table registry budget (depth + 1) body = .ok out →
          meaning d table' registry budget' (depth' + 1) body = .ok out :=
        fun body out => meaning_mono htable (by omega)
      exact ⟨parts, hparts.imp fun line part hline => lineMeaning_mono htable hinner hline, rfl⟩

end

end Expansion
end Literate
