import Mathlib
import Literate.Include
import Literate.Proofs.Run

/-! # The bound on includes

Which file an include leads to depends on everything that was resolved before it, since directories are
appended to the search list on the way. A bound on the nesting nevertheless only cuts a run off: under a
larger bound the run goes the same way at least as far (`Curtails`). So what a bound lets end, in lines
or in any fault but its own, ends in the same way under every larger one that room can be made for, and a
run that is cut off has just gone one level below its bound (`resolveFile_bound_exact`).

Every file has finitely many lines, so there are only so many includes before the bound is met, also
where files include each other in a cycle (`adds_resolveLines`). -/

namespace Literate

/-- The most lines that a file of the tree has. -/
def FileTree.width (tree : FileTree) : Nat :=
  (tree.nodes.map fun entry =>
    match entry.2 with
    | .file (some text) => (Text.splitLines Text.isNewline text).length
    | _ => 0).foldr max 0

namespace FileTree

variable {tree : FileTree} {path : Path} {text : Text}

theorem exists_node_of_read (h : tree.read path = .ok text) :
    ∃ place, (place, .file (some text)) ∈ tree.nodes := by
  obtain ⟨node, hlook, hnode⟩ := Result.bind_eq_ok.1 h
  obtain ⟨place, -, hplace⟩ := Result.bind_eq_ok.1 hlook
  obtain rfl : node = .file (some text) := by
    cases node with
    | directory => cases hnode
    | file text? =>
        cases text? with
        | none => cases hnode
        | some t => rw [Except.ok.inj hnode]
  have hat : tree.node? place = some (.file (some text)) := by
    cases hfound : tree.node? place with
    | none => simp [hfound] at hplace
    | some node =>
        simp only [hfound, Except.ok.injEq] at hplace
        rw [hplace]
  unfold node? at hat
  split at hat
  · cases hat
  · obtain ⟨before, after, hnodes, -⟩ := List.lookup_eq_some_iff.1 hat
    exact ⟨place, by rw [hnodes]; simp⟩

theorem length_splitLines_le_width (h : tree.read path = .ok text) :
    (Text.splitLines Text.isNewline text).length ≤ tree.width := by
  obtain ⟨place, hmem⟩ := exists_node_of_read h
  exact List.le_max_of_le' 0 (List.mem_map.2 ⟨_, hmem, rfl⟩) le_rfl

end FileTree

namespace Include

open Run

variable {α β : Type} {tree : FileTree}

/-! ### Runs that are cut off -/

/-- The bound was met at the file that was included last, at the depth `limit`. -/
def CutAt (limit : Int) (fault : Fault) (s : Search) : Prop :=
  ∃ r, s.records.getLast? = some r ∧ r.depth = limit ∧
    fault = .ofProblem (.includeTooDeep limit r.resolved)

/-- From every state, `x` is cut off at the depth `limit`, or it goes exactly as `y` does and ends by no
bound. -/
def Curtails (limit : Int) (x y : Run Search α) : Prop :=
  ∀ s, (∃ fault s', x.Ends s (.error fault) s' ∧ CutAt limit fault s') ∨
    (y.run s = x.run s ∧ ∀ fault, (x.run s).result = .error fault → fault.kind ≠ .bound)

variable {limit : Int}

theorem curtails_self {x : Run Search α}
    (h : ∀ s fault, (x.run s).result = .error fault → fault.kind ≠ .bound) :
    Curtails limit x x :=
  fun s => .inr ⟨rfl, h s⟩

theorem curtails_pure (a : α) : Curtails limit (pure a) (pure a) :=
  curtails_self fun _ _ h => by cases h

/-- What ends by no bound goes the same way. -/
theorem Curtails.run_eq {x y : Run Search α} (h : Curtails limit x y) {s : Search}
    (hother : ∀ fault, (x.run s).result = .error fault → fault.kind ≠ .bound) :
    y.run s = x.run s := by
  rcases h s with ⟨fault, s', hcut, r, -, -, rfl⟩ | ⟨hsame, -⟩
  · exact absurd rfl (hother _ hcut.1)
  · exact hsame

/-- What ends by a bound has been cut off. -/
theorem Curtails.cutAt {x y : Run Search α} (h : Curtails limit x y) {s : Search} {fault : Fault}
    (hfault : (x.run s).result = .error fault) (hkind : fault.kind = .bound) :
    CutAt limit fault (x.run s).state := by
  rcases h s with ⟨fault', s', hcut, hat⟩ | ⟨-, hother⟩
  · rw [hcut.1] at hfault
    cases hfault
    rw [hcut.2]
    exact hat
  · exact absurd hkind (hother fault hfault)

theorem Curtails.bind {x y : Run Search α} {f g : α → Run Search β} (hx : Curtails limit x y)
    (hf : ∀ a, Curtails limit (f a) (g a)) : Curtails limit (x >>= f) (y >>= g) := by
  intro s
  rcases hx s with ⟨fault, s', hcut, hat⟩ | ⟨hsame, hkind⟩
  · exact .inl ⟨fault, s', hcut.bind_error, hat⟩
  rcases x.ends_cases s with ⟨a, s', ha⟩ | ⟨fault, s', hfault⟩
  · rcases hf a s' with ⟨fault, s'', hcut, hat⟩ | ⟨hsame', hkind'⟩
    · exact .inl ⟨fault, s'', ha.bind hcut, hat⟩
    · refine .inr ⟨?_, fun fault hfault => hkind' fault ?_⟩
      · obtain ⟨hr, hs⟩ := ha
        rw [run_bind, run_bind, hsame]
        generalize x.run s = out at hr hs
        obtain ⟨result, t, log⟩ := out
        obtain rfl : result = .ok a := hr
        obtain rfl : t = s' := hs
        dsimp only
        rw [hsame']
      · exact (ha.bind ((f a).ends_self s')).1.symm.trans hfault
  · refine .inr ⟨?_, fun fault' hfault' => hkind fault' ?_⟩
    · obtain ⟨hr, -⟩ := hfault
      rw [run_bind, run_bind, hsame]
      generalize x.run s = out at hr
      obtain ⟨result, t, log⟩ := out
      obtain rfl : result = .error fault := hr
      rfl
    · have hstop := (hfault.bind_error (f := f)).1.symm.trans hfault'
      rw [← Except.error.inj hstop]
      exact hfault.1

theorem Curtails.collect {f g : α → Run Search (List β)} (h : ∀ a, Curtails limit (f a) (g a)) :
    ∀ l : List α, Curtails limit (Run.collect f l) (Run.collect g l)
  | [] => curtails_pure []
  | a :: l => (h a).bind fun first => (collect h l).bind fun others => curtails_pure (first ++ others)

/-! ### No step but the bound ends by the bound -/

theorem ends_find (file : Path) (reference : Text) (s : Search) :
    ∃ r, (find tree file reference).Ends s r s ∧ ∀ fault, r = .error fault → fault.kind ≠ .bound := by
  have hget : (get : Run Search Search).Ends s (.ok s) s := ends_get s
  cases hfound : firstFile? tree (candidates s.dirs file reference) with
  | error failure =>
      refine ⟨.error (.ofFailure failure), hget.bind ?_, fun fault h => ?_⟩
      · dsimp only
        rw [hfound]
        exact ends_fail _ s
      · cases h
        exact (by decide : Kind.evaluator ≠ .bound)
  | ok path? =>
      cases path? with
      | none =>
          refine ⟨.error (.ofProblem (.includeMissing reference file s.dirs)), hget.bind ?_,
            fun fault h => ?_⟩
          · dsimp only
            rw [hfound]
            exact ends_fail _ s
          · cases h
            exact (by decide : Kind.reference ≠ .bound)
      | some path =>
          refine ⟨.ok path, hget.bind ?_, fun fault h => by cases h⟩
          dsimp only
          rw [hfound]
          exact ends_pure _ s

theorem curtails_find (file : Path) (reference : Text) :
    Curtails limit (find tree file reference) (find tree file reference) := by
  refine curtails_self fun s fault h => ?_
  obtain ⟨r, hends, hkind⟩ := @ends_find tree file reference s
  exact hkind fault (hends.1.symm.trans h)

theorem curtails_record (r : IncludeRecord) : Curtails limit (record r) (record r) :=
  curtails_self fun _ _ h => by cases h

theorem curtails_addDir (file : Path) (directory : Text) :
    Curtails limit (addDir file directory) (addDir file directory) :=
  curtails_self fun _ _ h => by cases h

theorem kind_of_readLines {path : Path} {fault : Fault} (h : readLines tree path = .error fault) :
    fault.kind ≠ .bound := by
  unfold readLines at h
  split at h
  · cases h
  · cases h
    exact (by decide : Kind.file ≠ .bound)
  · cases h
    exact (by decide : Kind.evaluator ≠ .bound)

theorem curtails_readLines (path : Path) :
    Curtails limit (ofExcept (readLines tree path)) (ofExcept (readLines tree path)) := by
  refine curtails_self fun s fault h => ?_
  rw [(ends_ofExcept _ s).1] at h
  exact kind_of_readLines h

/-! ### Larger bounds -/

/-- Going into an included file with nothing left of the bound ends at that file. -/
theorem curtails_enter_zero (r : IncludeRecord) (y : List Line → Run Search (List Line)) :
    Curtails r.depth
      (do
        record r
        let inner ← ofExcept (readLines tree r.resolved)
        resolveLines tree 0 r.depth r.resolved inner)
      (do
        record r
        let inner ← ofExcept (readLines tree r.resolved)
        y inner) := by
  intro s
  have hrecord : (record r).Ends s (.ok ()) { s with records := s.records ++ [r] } := ⟨rfl, rfl⟩
  cases hread : readLines tree r.resolved with
  | error fault =>
      refine .inr ⟨rfl, fun fault' h => ?_⟩
      obtain rfl : fault = fault' := Except.error.inj h
      exact kind_of_readLines hread
  | ok inner =>
      refine .inl ⟨_, _, hrecord.bind ((ends_pure inner _).bind (ends_fail _ _)), r, ?_, rfl, rfl⟩
      exact List.getLast?_concat

/-- A larger bound lets a run go on, and changes nothing before that. -/
theorem curtails_resolveLines : ∀ (budget more : Nat) (depth : Int) (file : Path)
    (lines : List Line),
    Curtails (depth + 1 + budget) (resolveLines tree (budget + 1) depth file lines)
      (resolveLines tree (budget + more + 1) depth file lines)
  | 0, more, depth, file, lines => by
      unfold resolveLines
      refine Curtails.collect (fun line => ?_) lines
      split
      · rename_i path _ _
        refine (curtails_find file path).bind fun target => ?_
        rw [Nat.cast_zero, add_zero]
        exact curtails_enter_zero ⟨path, target, depth + 1⟩ _
      · exact (curtails_addDir file _).bind fun _ => curtails_pure []
      · exact curtails_pure _
  | budget + 1, more, depth, file, lines => by
      have hmore : budget + 1 + more + 1 = (budget + more + 1) + 1 := by omega
      have hlimit : depth + 1 + ((budget + 1 : Nat) : Int) = depth + 1 + 1 + budget := by
        push_cast
        ring
      rw [hmore, hlimit]
      unfold resolveLines
      refine Curtails.collect (fun line => ?_) lines
      split
      · rename_i path _ _
        refine (curtails_find file path).bind fun target => ?_
        refine (curtails_record _).bind fun _ => (curtails_readLines target).bind fun inner => ?_
        exact curtails_resolveLines budget more (depth + 1) target inner
      · exact (curtails_addDir file _).bind fun _ => curtails_pure []
      · exact curtails_pure _

/-! ### How many includes there are -/

/-- The run makes at most `n` records. -/
def Adds (n : Nat) (x : Run Search α) : Prop :=
  ∀ s, (x.run s).state.records.length ≤ s.records.length + n

theorem Adds.bind {m n : Nat} {x : Run Search α} {f : α → Run Search β} (hx : Adds m x)
    (hf : ∀ a, Adds n (f a)) : Adds (m + n) (x >>= f) := by
  intro s
  have hm := hx s
  rcases x.ends_cases s with ⟨a, s', ha⟩ | ⟨fault, s', hfault⟩
  · have hn := hf a s'
    rw [ha.2] at hm
    rw [(ha.bind ((f a).ends_self s')).2]
    omega
  · rw [hfault.2] at hm
    rw [hfault.bind_error.2]
    omega

theorem Adds.collect {n : Nat} {f : α → Run Search (List β)} (h : ∀ a, Adds n (f a)) :
    ∀ l : List α, Adds (l.length * n) (Run.collect f l)
  | [] => fun s => Nat.le_add_right _ _
  | a :: l => by
      have hcons := (h a).bind fun first => (collect h l).bind fun others =>
        (fun s => Nat.le_add_right _ _ : Adds 0 (pure (first ++ others)))
      have hlength : (a :: l).length * n = n + (l.length * n + 0) := by
        rw [List.length_cons]
        ring
      rw [hlength]
      exact hcons

theorem Adds.ofExcept {n : Nat} {r : Except Fault α} {f : α → Run Search β}
    (h : ∀ a, r = .ok a → Adds n (f a)) : Adds n (Run.ofExcept r >>= f) := by
  intro s
  cases r with
  | error fault => exact Nat.le_add_right _ _
  | ok a =>
      rw [((ends_ofExcept (.ok a) s).bind (ends_self _ s)).2]
      exact h a rfl s

theorem length_of_readLines {path : Path} {lines : List Line}
    (h : readLines tree path = .ok lines) : lines.length ≤ tree.width := by
  unfold readLines at h
  split at h
  · next text htext =>
      rw [← Except.ok.inj h, Line.ofFile, Line.length_numbered]
      exact FileTree.length_splitLines_le_width htext
  · cases h
  · cases h

theorem sum_width_succ (width budget : Nat) :
    ∑ i ∈ Finset.range (budget + 1), width ^ (i + 1) =
      width * (1 + ∑ i ∈ Finset.range budget, width ^ (i + 1)) := by
  rw [Finset.sum_range_succ', mul_add, Finset.mul_sum]
  simp only [pow_succ']
  ring

/-- However the files include each other, the nesting and the width of the files bound the includes. -/
theorem adds_resolveLines : ∀ (budget : Nat) (depth : Int) (file : Path) (lines : List Line),
    lines.length ≤ tree.width →
    Adds (∑ i ∈ Finset.range budget, tree.width ^ (i + 1))
      (resolveLines tree budget depth file lines)
  | 0, _, _, _, _ => fun _ => Nat.le_add_right _ _
  | budget + 1, depth, file, lines, hlines => by
      have henter : ∀ target, Adds (∑ i ∈ Finset.range budget, tree.width ^ (i + 1)) (do
          let inner ← ofExcept (readLines tree target)
          resolveLines tree budget (depth + 1) target inner) := fun target =>
        Adds.ofExcept fun inner hread =>
          adds_resolveLines budget (depth + 1) target inner (length_of_readLines hread)
      have hall : Adds (lines.length * (1 + ∑ i ∈ Finset.range budget, tree.width ^ (i + 1)))
          (resolveLines tree (budget + 1) depth file lines) := by
        refine Adds.collect (fun line s => ?_) lines
        split
        · next path _ _ =>
            obtain ⟨r, hfind, -⟩ := @ends_find tree file path s
            cases r with
            | error fault =>
                rw [hfind.bind_error.2]
                exact Nat.le_add_right _ _
            | ok target =>
                have hrecord : (record ⟨path, target, depth + 1⟩).Ends s (.ok ())
                    { s with records := s.records ++ [⟨path, target, depth + 1⟩] } := ⟨rfl, rfl⟩
                have hadds := henter target
                  { s with records := s.records ++ [⟨path, target, depth + 1⟩] }
                rw [(hfind.bind (hrecord.bind (ends_self _ _))).2]
                rw [List.length_append, List.length_singleton] at hadds
                omega
        · exact Nat.le_add_right _ _
        · exact Nat.le_add_right _ _
      intro s
      refine (hall s).trans (Nat.add_le_add_left ?_ _)
      rw [sum_width_succ]
      exact Nat.mul_le_mul_right _ hlines

/-! ### Whole files -/

theorem curtails_resolveWithin (file : Path) {maxDepth larger : Nat} (h : maxDepth ≤ larger) :
    Curtails (maxDepth + 1) (resolveWithin tree maxDepth file) (resolveWithin tree larger file) := by
  obtain ⟨more, rfl⟩ := Nat.exists_eq_add_of_le h
  have hbudget : ((maxDepth : Int) + 1 - 0).toNat = maxDepth + 1 := by omega
  have hlarger : (((maxDepth + more : Nat) : Int) + 1 - 0).toNat = maxDepth + more + 1 := by omega
  have hlimit : (maxDepth : Int) + 1 = 0 + 1 + maxDepth := by ring
  refine (curtails_readLines file).bind fun lines => ?_
  unfold resolve
  rw [hbudget, hlarger, hlimit]
  exact curtails_resolveLines maxDepth more 0 file lines

theorem adds_resolveWithin (file : Path) (maxDepth : Nat) :
    Adds (∑ i ∈ Finset.range (maxDepth + 1), tree.width ^ (i + 1))
      (resolveWithin tree maxDepth file) := by
  have hbudget : ((maxDepth : Int) + 1 - 0).toNat = maxDepth + 1 := by omega
  unfold resolveWithin resolve
  rw [hbudget]
  exact Adds.ofExcept fun lines hread =>
    adds_resolveLines _ 0 file lines (length_of_readLines hread)

/-- The settings with another bound on includes. -/
def bounded (settings : Settings) (maxDepth : Nat) : Settings :=
  { settings with maxIncludeDepth := maxDepth }

/-- Where room can be made for a bound, it can be made for every smaller one. -/
theorem bounded_fits {settings : Settings} {stack maxDepth larger : Nat} (hle : maxDepth ≤ larger)
    (h : (bounded settings larger).Fits stack) : (bounded settings maxDepth).Fits stack := by
  simp only [Settings.Fits, Settings.callDepth, bounded] at *
  omega

/-- **The bound on includes only cuts a run off.** Resolving a file makes a bounded number of includes,
however the files include each other. Take a larger bound that room can be made for. Lines that come out
under the bound come out under the larger one, with the same records, search list and log, and a fault
other than the bound's own stays as it is. Where the bound is met, this is one level below it, at the file
that was included last. A bound that no room can be made for is refused, and nothing is done. -/
theorem resolveFile_bound_exact (settings : Settings) (stack : Nat) (tree : FileTree) (file : Path)
    (dirs : List Path) (maxDepth : Nat) :
    let outcome (bound : Nat) := (resolveFile (bounded settings bound) stack tree file).run { dirs }
    let fits (bound : Nat) : Prop := (bounded settings bound).Fits stack
    (outcome maxDepth).state.records.length ≤
      ∑ i ∈ Finset.range (maxDepth + 1), tree.width ^ (i + 1) ∧
    (∀ lines, (outcome maxDepth).result = .ok lines →
      ∀ larger, maxDepth ≤ larger → fits larger → outcome larger = outcome maxDepth) ∧
    (∀ fault, (outcome maxDepth).result = .error fault → fault.kind ≠ .bound →
      ∀ larger, maxDepth ≤ larger → fits larger → outcome larger = outcome maxDepth) ∧
    (∀ fault, (outcome maxDepth).result = .error fault → fault.kind = .bound →
      ∃ r, (outcome maxDepth).state.records.getLast? = some r ∧ r.depth = maxDepth + 1 ∧
        fault = .ofProblem (.includeTooDeep (maxDepth + 1) r.resolved)) ∧
    (¬fits maxDepth → outcome maxDepth = ⟨.error (.ofFailure noRoom), { dirs }, []⟩) := by
  intro outcome fits
  have hrun (bound : Nat) (h : fits bound) :
      outcome bound = (resolveWithin tree bound file).run { dirs } := by
    show (resolveFile _ _ _ _).run _ = _
    rw [resolveFile_of_fits h]
    rfl
  have hrefused (bound : Nat) (h : ¬fits bound) :
      outcome bound = ⟨.error (.ofFailure noRoom), { dirs }, []⟩ := by
    show (resolveFile _ _ _ _).run _ = _
    rw [resolveFile_of_not_fits h]
    rfl
  have hsame (larger : Nat) (hle : maxDepth ≤ larger) (hfits : fits larger)
      (hother : ∀ fault, (outcome maxDepth).result = .error fault → fault.kind ≠ .bound) :
      outcome larger = outcome maxDepth := by
    rw [hrun maxDepth (bounded_fits hle hfits)] at hother ⊢
    rw [hrun larger hfits]
    exact (curtails_resolveWithin file hle).run_eq hother
  refine ⟨?_, ?_, ?_, ?_, hrefused maxDepth⟩
  · by_cases hfits : fits maxDepth
    · have hadds := @adds_resolveWithin tree file maxDepth { dirs }
      rw [hrun maxDepth hfits]
      simpa using hadds
    · rw [hrefused maxDepth hfits]
      exact Nat.zero_le _
  · intro lines hlines larger hle hfits
    refine hsame larger hle hfits fun fault hfault => ?_
    rw [hlines] at hfault
    cases hfault
  · intro fault hfault hkind larger hle hfits
    refine hsame larger hle hfits fun fault' hfault' => ?_
    rw [hfault] at hfault'
    cases hfault'
    exact hkind
  · intro fault hfault hkind
    by_cases hfits : fits maxDepth
    · rw [hrun maxDepth hfits] at hfault ⊢
      exact (curtails_resolveWithin file le_rfl).cutAt hfault hkind
    · rw [hrefused maxDepth hfits] at hfault
      cases hfault
      cases hkind

/-- A file that needs a directory of its own search list comes out under every bound but 0 that room can be
made for, a file that is missing is missed under all of them, and two files that include each other are
cut off. -/
theorem resolveFile_search_and_cycle :
    let tree : FileTree := ⟨[
      ({ names := [['d']] }, .directory),
      ({ names := [['a']] }, .file (some "! include-path d\n! include [](b)\n".toList)),
      ({ names := [['d'], ['b']] }, .file (some "! include [](../a)\n".toList)),
      ({ names := [['m']] }, .file (some "! include [](gone)\n".toList)),
      ({ names := [['c']] }, .file (some "x\n! include-path d\n! include [](e)\n".toList)),
      ({ names := [['d'], ['e']] }, .file (some "y\n".toList))]⟩
    let outcome (bound : Nat) (file : Path) := (resolveFile (bounded {} bound) 9 tree file).run {}
    (∀ larger, 1 ≤ larger → larger ≤ 2147483138 → (outcome larger ⟨0, [['c']]⟩).result =
        .ok [⟨"x\n".toList, some ⟨0, [['c']]⟩, 1⟩, ⟨"y\n".toList, some ⟨0, [['d'], ['e']]⟩, 1⟩]) ∧
    (∀ larger, 0 ≤ larger → larger ≤ 2147483138 → (outcome larger ⟨0, [['m']]⟩).result =
        .error (.ofProblem (.includeMissing "gone".toList ⟨0, [['m']]⟩ []))) ∧
    ∃ r, (outcome 2 ⟨0, [['a']]⟩).state.records.getLast? = some r ∧
      r.depth = 3 ∧ Fault.ofProblem (.includeTooDeep 3 ⟨0, [['d'], ['b']]⟩) =
        .ofProblem (.includeTooDeep 3 r.resolved) := by
  intro tree outcome
  have hfound : (outcome 1 ⟨0, [['c']]⟩).result =
      .ok [⟨"x\n".toList, some ⟨0, [['c']]⟩, 1⟩, ⟨"y\n".toList, some ⟨0, [['d'], ['e']]⟩, 1⟩] := by
    decide +kernel
  have hmissing : (outcome 0 ⟨0, [['m']]⟩).result =
      .error (.ofProblem (.includeMissing "gone".toList ⟨0, [['m']]⟩ [])) := by decide +kernel
  have hcut : (outcome 2 ⟨0, [['a']]⟩).result =
      .error (.ofProblem (.includeTooDeep 3 ⟨0, [['d'], ['b']]⟩)) := by decide +kernel
  have hfits (larger : Nat) (hle : larger ≤ 2147483138) : (bounded {} larger).Fits 9 := by
    simp only [Settings.Fits, Settings.callDepth, bounded, mostCalls]
    omega
  obtain ⟨-, hlines, -, -, -⟩ := resolveFile_bound_exact {} 9 tree ⟨0, [['c']]⟩ [] 1
  obtain ⟨-, -, hfault, -, -⟩ := resolveFile_bound_exact {} 9 tree ⟨0, [['m']]⟩ [] 0
  obtain ⟨-, -, -, hbound, -⟩ := resolveFile_bound_exact {} 9 tree ⟨0, [['a']]⟩ [] 2
  refine ⟨fun larger hone hle => ?_, fun larger hzero hle => ?_, hbound _ hcut rfl⟩
  · exact (congrArg Outcome.result (hlines _ hfound larger hone (hfits larger hle))).trans hfound
  · exact (congrArg Outcome.result (hfault _ hmissing (by decide) larger hzero (hfits larger hle))).trans
      hmissing

/-- A file without includes comes out under the bound 0, but it is refused under a bound that no room can be
made for. -/
theorem resolveFile_refuses_larger :
    let tree : FileTree := ⟨[({ names := ["a.lmd".toList] }, .file (some "x\n".toList))]⟩
    let outcome (bound : Nat) := (resolveFile (bounded {} bound) 9 tree ⟨0, ["a.lmd".toList]⟩).run {}
    (outcome 0).result = .ok [⟨"x\n".toList, some ⟨0, ["a.lmd".toList]⟩, 1⟩] ∧
      (outcome 2147483648).result = .error (.ofFailure noRoom) := by
  decide +kernel

end Include
end Literate
