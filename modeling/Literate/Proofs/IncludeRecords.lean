import Mathlib
import Literate.Proofs.IncludeBound
import Literate.Proofs.Inlining

/-! # The records of includes

An include is recorded when its file is found, before the file is read and before the bound on the nesting is
checked. So the records of a run that stops anywhere are those of the files that it has entered, and of one
more that could not be entered.

A file is recorded one level below the file that includes it, and all that it includes comes before what
follows it (`Tour.inOrder`). No file below the bound is entered, so a record below the bound is the last one
(`Tour.endsBeyond`). If the run comes to its end, the records are those of the tree of includes, each file
before those that it includes (`Inlining.forest`, `Forest.listing`). -/

namespace Literate.Include

open Run

variable {tree : FileTree} {maxDepth depth : Int} {file : Path}

/-! ### Levels -/

/-- The records of files at a level and below it: they start at the level, stay on it or below it, and go
down by one level at a time. -/
structure InOrder (level : Int) (records : List IncludeRecord) : Prop where
  first : ∀ r ∈ records.head?, r.depth = level
  below : ∀ r ∈ records, level ≤ r.depth
  next : records.IsChain fun r r' => r'.depth ≤ r.depth + 1

theorem inOrder_nil (level : Int) : InOrder level [] where
  first := by simp
  below := by simp
  next := .nil

theorem InOrder.cons {level : Int} {records : List IncludeRecord} {r : IncludeRecord}
    (hr : r.depth = level) (h : InOrder (level + 1) records) : InOrder level (r :: records) where
  first := by simpa using hr
  below := by
    refine List.forall_mem_cons.2 ⟨hr.ge, fun r' hr' => ?_⟩
    have hbelow := h.below r' hr'
    omega
  next := by
    refine List.isChain_cons.2 ⟨fun r' hr' => ?_, h.next⟩
    rw [h.first r' hr', hr]

/-- From any level below, the way back up to the level is open. -/
theorem InOrder.append {level : Int} {records more : List IncludeRecord} (h : InOrder level records)
    (hmore : InOrder level more) : InOrder level (records ++ more) where
  first := by
    intro r hr
    rw [List.head?_append, Option.mem_def, Option.or_eq_some_iff] at hr
    rcases hr with hr | ⟨-, hr⟩
    · exact h.first r hr
    · exact hmore.first r hr
  below := List.forall_mem_append.2 ⟨h.below, hmore.below⟩
  next := by
    refine List.isChain_append.2 ⟨h.next, hmore.next, fun r hr r' hr' => ?_⟩
    have hbelow := h.below r (List.mem_of_getLast? hr)
    have hfirst := hmore.first r' hr'
    omega

/-- No record lies below the bound, or only the last one, by one level, and the run has failed. -/
inductive EndsBeyond (maxDepth : Int) (failed : Prop) : List IncludeRecord → Prop where
  | within {records : List IncludeRecord} (hwithin : ∀ r ∈ records, r.depth ≤ maxDepth) :
      EndsBeyond maxDepth failed records
  | beyond {records : List IncludeRecord} {r : IncludeRecord} (hfailed : failed)
      (hwithin : ∀ r ∈ records, r.depth ≤ maxDepth) (hbeyond : r.depth = maxDepth + 1) :
      EndsBeyond maxDepth failed (records ++ [r])

namespace EndsBeyond

variable {failed : Prop} {records more : List IncludeRecord}

theorem append (hwithin : ∀ r ∈ records, r.depth ≤ maxDepth) (h : EndsBeyond maxDepth failed more) :
    EndsBeyond maxDepth failed (records ++ more) := by
  cases h with
  | within hmore => exact .within (List.forall_mem_append.2 ⟨hwithin, hmore⟩)
  | beyond hfailed hmore hbeyond =>
      rw [← List.append_assoc]
      exact .beyond hfailed (List.forall_mem_append.2 ⟨hwithin, hmore⟩) hbeyond

theorem within_of_not (h : EndsBeyond maxDepth failed records) (hfailed : ¬ failed) :
    ∀ r ∈ records, r.depth ≤ maxDepth := by
  cases h with
  | within hwithin => exact hwithin
  | beyond hfailed' => exact absurd hfailed' hfailed

theorem imp {failed' : Prop} (h : EndsBeyond maxDepth failed records) (himp : failed → failed') :
    EndsBeyond maxDepth failed' records := by
  cases h with
  | within hwithin => exact .within hwithin
  | beyond hfailed hwithin hbeyond => exact .beyond (himp hfailed) hwithin hbeyond

theorem depth_le (h : EndsBeyond maxDepth failed records) :
    ∀ r ∈ records, r.depth ≤ maxDepth + 1 := by
  cases h with
  | within hwithin => exact fun r hr => (hwithin r hr).trans (by omega)
  | beyond hfailed hwithin hbeyond =>
      refine List.forall_mem_append.2 ⟨fun r hr => (hwithin r hr).trans (by omega), ?_⟩
      simpa using hbeyond.le

theorem of_beyond {before after : List IncludeRecord} {r : IncludeRecord}
    (h : EndsBeyond maxDepth failed (before ++ r :: after)) (hr : r.depth = maxDepth + 1) :
    after = [] ∧ failed := by
  generalize hrecords : before ++ r :: after = records at h
  cases h with
  | within hwithin =>
      have hle := hwithin r (by simp [← hrecords])
      omega
  | @beyond records last hfailed hwithin hbeyond =>
      refine ⟨?_, hfailed⟩
      by_contra hafter
      obtain ⟨init, c, rfl⟩ := (List.eq_nil_or_concat' after).resolve_left hafter
      have hinit : before ++ r :: init = records := by
        have hdrop := congrArg List.dropLast hrecords
        rwa [← List.cons_append, ← List.append_assoc, List.dropLast_concat,
          List.dropLast_concat] at hdrop
      have hle := hwithin r (by simp [← hinit])
      omega

end EndsBeyond

/-! ### Tours -/

/-- The records of the files that are found on the way. -/
def recorded (visits : List Visit) : List IncludeRecord := visits.filterMap Visit.record?

theorem recorded_lost (reference : Text) (fault : Fault) :
    recorded [.inclusion file reference depth (.error fault)] = [] := rfl

theorem recorded_found (reference : Text) (target : Path) (visits : List Visit) :
    recorded (.inclusion file reference depth (.ok target) :: visits) =
      ⟨reference, target, depth⟩ :: recorded visits := rfl

theorem recorded_append (visits more : List Visit) :
    recorded (visits ++ more) = recorded visits ++ recorded more := List.filterMap_append

namespace Tour

variable {read result : Except Fault (List Line)} {visits : List Visit}

theorem inOrder (h : Tour tree maxDepth depth file read visits result) :
    InOrder (depth + 1) (recorded visits) := by
  induction h with
  | unreadable fault => exact inOrder_nil _
  | tooDeep hdepth => exact inOrder_nil _
  | finished hdepth => exact inOrder_nil _
  | kept hdepth hline hrest ih => exact ih
  | noted hdepth hline hrest ih => exact ih
  | lost hdepth hline => exact inOrder_nil _
  | stopped hdepth hline hinner ih => exact ih.cons rfl
  | through hdepth hline hinner hrest ihinner ihrest =>
      rw [recorded_append, recorded_found]
      refine InOrder.append ?_ ihrest
      exact ihinner.cons rfl

theorem visits_eq_nil (h : Tour tree maxDepth depth file read visits result) (hdepth : maxDepth < depth) :
    visits = [] := by
  cases h with
  | unreadable fault => rfl
  | tooDeep hdepth => rfl
  | finished hle => rfl
  | kept hle hline hrest => omega
  | noted hle hline hrest => omega
  | lost hle hline => omega
  | stopped hle hline hinner => omega
  | through hle hline hinner hrest => omega

theorem depth_le_of_ok {out : List Line} (h : Tour tree maxDepth depth file read visits (.ok out)) :
    depth ≤ maxDepth := by
  generalize hresult : Except.ok out = result at h
  cases h with
  | unreadable fault => cases hresult
  | tooDeep hdepth => cases hresult
  | finished hle => exact hle
  | kept hle hline hrest => exact hle
  | noted hle hline hrest => exact hle
  | lost hle hline => exact hle
  | stopped hle hline hinner => exact hle
  | through hle hline hinner hrest => exact hle

theorem endsBeyond (h : Tour tree maxDepth depth file read visits result) :
    EndsBeyond maxDepth (∃ fault, result = .error fault) (recorded visits) := by
  induction h with
  | unreadable fault => exact .within (by simp [recorded])
  | tooDeep hdepth => exact .within (by simp [recorded])
  | finished hdepth => exact .within (by simp [recorded])
  | @kept _ _ _ _ _ result hdepth hline hrest ih =>
      refine ih.imp ?_
      rintro ⟨fault, rfl⟩
      exact ⟨fault, rfl⟩
  | noted hdepth hline hrest ih => exact ih
  | lost hdepth hline => exact .within (by simp [recorded_lost])
  | @stopped depth file target line rest reference description visits fault hdepth hline hinner ih =>
      rw [recorded_found]
      rcases hdepth.lt_or_eq with hlt | rfl
      · have hfirst : ∀ r ∈ [(⟨reference, target, depth + 1⟩ : IncludeRecord)], r.depth ≤ maxDepth := by
          simpa using hlt
        exact ih.append hfirst
      · -- the file stands just below the bound, so nothing in it is looked at
        rw [hinner.visits_eq_nil (by omega)]
        show EndsBeyond depth _ ([] ++ [_])
        exact .beyond ⟨fault, rfl⟩ (by simp) rfl
  | @through depth file target line rest inner reference description visits more result hdepth hline hinner
      hrest ihinner ihrest =>
      rw [recorded_append, recorded_found]
      have hwithin : ∀ r ∈ recorded visits, r.depth ≤ maxDepth := ihinner.within_of_not (by simp)
      have hfirst := hinner.depth_le_of_ok
      refine (ihrest.imp ?_).append (List.forall_mem_cons.2 ⟨hfirst, hwithin⟩)
      rintro ⟨fault, rfl⟩
      exact ⟨fault, rfl⟩

end Tour

/-! ### The tree of includes -/

/-- Files that are included one after the other, each with the path as it is written, the file that it leads
to and the files that are included there. -/
inductive Forest where
  | nil
  | node (path : Text) (resolved : Path) (inner next : Forest)

/-- The files of a forest at a level, each before those that it includes. -/
def Forest.listing (level : Int) : Forest → List IncludeRecord
  | nil => []
  | node path resolved inner next =>
    ⟨path, resolved, level⟩ :: inner.listing (level + 1) ++ next.listing level

namespace Inlining

/-- The include directives of a file, each with those of the file that it leads to. -/
def forest : {file : Path} → {source : List Line} → Inlining tree file source → Forest
  | _, _, nil => .nil
  | _, _, keep _ _ next => next.forest
  | _, _, skip _ _ next => next.forest
  | _, _, splice reference _ target _ body next => .node reference target body.forest next.forest

theorem recorded_visits {source : List Line} (inlining : Inlining tree file source) (depth : Int) :
    recorded (inlining.visits depth) = inlining.forest.listing (depth + 1) := by
  induction inlining generalizing depth with
  | nil => rfl
  | keep line plain next ih => exact ih depth
  | skip name directive next ih => exact ih depth
  | splice reference directive target read body next ihbody ihnext =>
      rw [visits, recorded_append, recorded_found, ihbody, ihnext]
      rfl

end Inlining

/-! ### What the resolver records -/

/-- **The records list the tree of includes.** Whether a run on a file succeeds or fails, the levels of its
records start at 1, go down by at most one from a record to the next, and reach to one below the bound; a
record at that level is the last one, of a run that fails. If the run succeeds, the records are those of the
tree of the include directives that were met, each with its path as written, the file that it led to and its
level, and before those of that file. -/
theorem resolveFile_records_preorder (settings : Settings) (stack : Nat) (tree : FileTree) (file : Path)
    (dirs : List Path) (maxDepth : Nat) :
    let out := (resolveFile (bounded settings maxDepth) stack tree file).run { dirs }
    (∀ r ∈ out.state.records.head?, r.depth = 1) ∧
    out.state.records.IsChain (fun r next => next.depth ≤ r.depth + 1) ∧
    (∀ r ∈ out.state.records, 1 ≤ r.depth ∧ r.depth ≤ (maxDepth : Int) + 1) ∧
    (∀ before r after, out.state.records = before ++ r :: after → r.depth = (maxDepth : Int) + 1 →
      after = [] ∧ ∃ fault, out.result = .error fault) ∧
    ∀ lines, out.result = .ok lines →
      ∃ source, readLines tree file = .ok source ∧ ∃ inlining : Inlining tree file source,
        inlining.lines = lines ∧ Lawful tree dirs (inlining.visits 0) ∧
        out.state.records = inlining.forest.listing 1 := by
  intro out
  have hends : (resolveFile (bounded settings maxDepth) stack tree file).Ends { dirs } out.result
      out.state := ends_self _ _
  rcases ends_resolveFile.1 hends with ⟨-, hends⟩ | ⟨-, hresult, hstate⟩
  swap
  · rw [hresult, hstate]
    simp
  obtain ⟨visits, htour, -, hstate⟩ := exists_tour_of_ends hends
  have hrecords : out.state.records = recorded visits := by
    rw [hstate]
    simp [after, recorded]
  have horder : InOrder 1 out.state.records := hrecords ▸ htour.inOrder
  have hbound : EndsBeyond maxDepth (∃ fault, out.result = .error fault) out.state.records :=
    hrecords ▸ htour.endsBeyond
  refine ⟨horder.first, horder.next, fun r hr => ⟨horder.below r hr, hbound.depth_le r hr⟩, ?_, ?_⟩
  · intro before r after hsplit hr
    rw [hsplit] at hbound
    exact hbound.of_beyond hr
  · intro lines hlines
    rw [hlines] at hends
    obtain ⟨source, hread, inlining, hout, -, hlaw, hstate⟩ := exists_inlining_of_ends hends
    refine ⟨source, hread, inlining, hout, hlaw, ?_⟩
    rw [← zero_add (1 : Int), ← inlining.recorded_visits, hstate]
    simp [after, recorded]

/-- The file `a` includes `p`, in which `q` is included, and then `q` itself; the file `c` includes itself. -/
theorem resolveFile_records_preorder_nested :
    let tree : FileTree := ⟨[
      ({ names := [['a']] }, .file (some "! include [](p)\n! include [](./q)\n".toList)),
      ({ names := [['p']] }, .file (some "! include [](q)\n".toList)),
      ({ names := [['q']] }, .file (some "1\n".toList)),
      ({ names := [['c']] }, .file (some "! include [](c)\n2\n".toList))]⟩
    let first : Path := ⟨0, [['a']]⟩
    let part : Path := ⟨0, [['p']]⟩
    let inner : Path := ⟨0, [['q']]⟩
    let cycle : Path := ⟨0, [['c']]⟩
    let out (maxDepth : Nat) (file : Path) := (resolveFile (bounded {} maxDepth) 9 tree file).run {}
    (∃ source, ∃ inlining : Inlining tree first source,
      inlining.lines = [⟨"1\n".toList, some inner, 1⟩, ⟨"1\n".toList, some inner, 1⟩] ∧
      [⟨['p'], part, 1⟩, ⟨['q'], inner, 2⟩, ⟨"./q".toList, inner, 1⟩] = inlining.forest.listing 1) ∧
    (out 1 cycle).state.records = [⟨['c'], cycle, 1⟩, ⟨['c'], cycle, 2⟩] ∧
    ∃ fault, (out 1 cycle).result = .error fault := by
  intro tree first part inner cycle out
  have hresult : (out 2 first).result =
      .ok [⟨"1\n".toList, some inner, 1⟩, ⟨"1\n".toList, some inner, 1⟩] := by decide +kernel
  have hrecords : (out 2 first).state.records =
      [⟨['p'], part, 1⟩, ⟨['q'], inner, 2⟩, ⟨"./q".toList, inner, 1⟩] := by decide +kernel
  have hcycle : (out 1 cycle).state.records =
      [⟨['c'], cycle, 1⟩, ⟨['c'], cycle, 2⟩] := by decide +kernel
  obtain ⟨-, -, -, -, hlisting⟩ := resolveFile_records_preorder {} 9 tree first [] 2
  obtain ⟨-, -, -, hbeyond, -⟩ := resolveFile_records_preorder {} 9 tree cycle [] 1
  obtain ⟨source, -, inlining, hlines, -, hforest⟩ := hlisting _ hresult
  refine ⟨⟨source, inlining, hlines, hrecords.symm.trans hforest⟩, hcycle, ?_⟩
  exact (hbeyond [⟨['c'], cycle, 1⟩] ⟨['c'], cycle, 2⟩ [] hcycle rfl).2

end Literate.Include
