import Mathlib
import Literate.Proofs.Tours

/-! # The order in which includes are searched

The search list is one list for all files, and every `include-path` directive appends to it. So what an
include finds depends on everything that was gone through before it, also in files that are finished.
For the law at one include it does not matter how the files are nested: its candidates are those of the
list at the start and of all directories met so far, and the first that leads to a file is used
(`resolveFile_search_order`). Only a candidate that is too long to be looked up breaks this order, since
it ends the run where it is met (`resolveFile_refused`).

Nothing that is found is lost when the list goes on. A resolver that starts again with the list that its
first run has left therefore goes the same way a second time (`resolveFile_again`). -/

namespace Literate.Include

open Run

variable {settings : Settings} {stack : Nat} {tree : FileTree} {maxDepth depth : Int} {file : Path}
variable {s s' : Search}

/-! ### One run -/

/-- **Includes are searched in document order.** Where room can be made for the settings, the run on a file
ends in a result and leaves a search exactly if there is a tour through the files with that result in which
every include is looked for in the directories at the start, followed by those of the `include-path`
directives met before it, in order; and the search is then extended by the directories and records of the
tour, in order. Otherwise the run is refused and leaves the search as it is. -/
theorem resolveFile_search_order {result : Except Fault (List Line)} :
    (resolveFile settings stack tree file).Ends s result s' ↔
      settings.Fits stack ∧
        (∃ visits, Tour tree settings.maxIncludeDepth 0 file (readLines tree file) visits result ∧
          Lawful tree s.dirs visits ∧ s' = after s visits) ∨
      ¬settings.Fits stack ∧ result = .error (.ofFailure noRoom) ∧ s' = s := by
  refine ends_resolveFile.trans (or_congr_left (and_congr_right fun _ => ⟨exists_tour_of_ends, ?_⟩))
  rintro ⟨visits, htour, hlaw, rfl⟩
  exact htour.ends s hlaw

/-- A directory whose path is too long ends the run, although the include has a short name and is found in
the next directory. -/
theorem resolveFile_refused :
    let tree : FileTree := ⟨[
      ({ names := [['a']] }, .file (some "! include [](x)\n".toList)),
      ({ names := [['g']] }, .directory),
      ({ names := [['g'], ['x']] }, .file (some "y\n".toList))]⟩
    let long : Path := ⟨0, List.replicate 2048 ['d']⟩
    let found : Path := ⟨0, [['g'], ['x']]⟩
    (∃ before, candidates [long, ⟨0, [['g']]⟩] ⟨0, [['a']]⟩ ['x'] = before ++ [found] ∧
      (∀ p ∈ before, ¬ tree.HasFile p) ∧ tree.HasFile found) ∧
    ((resolveFile {} 9 tree ⟨0, [['a']]⟩).run { dirs := [long, ⟨0, [['g']]⟩] }).result =
      .error (.ofFailure (.file .nameTooLong (long.join (.ofText ['x'])))) := by
  intro tree long found
  refine ⟨⟨[⟨0, [['x']]⟩, long.join (.ofText ['x'])], by decide +kernel, ?_, ?_⟩, by decide +kernel⟩
  · have hbeside : tree.look ⟨0, [['x']]⟩ = .error (.file .noSuchFile ⟨0, [['x']]⟩) := by
      decide +kernel
    have hlong : tree.look (long.join (.ofText ['x'])) =
        .error (.file .nameTooLong (long.join (.ofText ['x']))) := by decide +kernel
    rintro p hp ⟨text?, hlook⟩
    rcases List.mem_pair.1 hp with rfl | rfl
    · rw [hbeside] at hlook
      cases hlook
    · rw [hlong] at hlook
      cases hlook
  · exact ⟨some "y\n".toList, by decide +kernel⟩

/-! ### Runs one after the other -/

theorem Tour.found {read result : Except Fault (List Line)} {visits : List Visit}
    (htour : Tour tree maxDepth depth file read visits result) :
    ∀ out, result = .ok out → ∀ file reference depth outcome,
      .inclusion file reference depth outcome ∈ visits → ∃ target, outcome = .ok target := by
  induction htour with
  | unreadable fault => simp
  | tooDeep hdepth => simp
  | finished hdepth => simp
  | @kept _ _ line _ visits result _ _ _ ih =>
      intro out hout
      cases result with
      | error fault => cases hout
      | ok others => exact ih others rfl
  | noted _ _ _ ih =>
      intro out hout file reference depth outcome hmem
      rcases List.mem_cons.1 hmem with h | hmem
      · cases h
      · exact ih out hout file reference depth outcome hmem
  | lost hdepth hline => simp
  | stopped hdepth hline _ ih => simp
  | @through _ _ target _ _ inner _ _ visits more result _ _ _ _ ihinner ihrest =>
      intro out hout file reference depth outcome hmem
      cases result with
      | error fault => cases hout
      | ok others =>
          rw [List.cons_append, List.mem_cons, List.mem_append] at hmem
          rcases hmem with h | hmem | hmem
          · cases h
            exact ⟨target, rfl⟩
          · exact ihinner inner rfl file reference depth outcome hmem
          · exact ihrest others rfl file reference depth outcome hmem

/-- Visits that have found all files find them again if their own directories are there from the start.
At each include the list then begins with all that was searched there before. -/
theorem Lawful.again {dirs : List Path} {visits : List Visit} (hlaw : Lawful tree dirs visits)
    (hfound : ∀ file reference depth outcome,
      .inclusion file reference depth outcome ∈ visits → ∃ target, outcome = .ok target) :
    Lawful tree (dirs ++ added visits) visits := by
  intro before file reference depth outcome rest he
  obtain ⟨target, rfl⟩ := hfound file reference depth outcome (by rw [he]; simp)
  have hlist : dirs ++ added before <+: dirs ++ added visits ++ added before := by
    refine ⟨added (.inclusion file reference depth (.ok target) :: rest) ++ added before, ?_⟩
    rw [he, added_append]
    simp only [List.append_assoc]
  exact (hlaw before file reference depth _ rest he).of_isPrefix hlist

/-- **Resolving a file again changes nothing.** When a file has been resolved, a second run of the same
resolver gives the same lines, and appends the same directories and the same records once more, although
it starts with all the directories that the first run has met on its way. -/
theorem resolveFile_again {lines : List Line}
    (h : ((resolveFile settings stack tree file).run s).result = .ok lines) :
    let first := (resolveFile settings stack tree file).run s
    let second := (resolveFile settings stack tree file).run first.state
    second.result = .ok lines ∧ ∃ dirs records,
      first.state = ⟨s.dirs ++ dirs, s.records ++ records⟩ ∧
      second.state = ⟨first.state.dirs ++ dirs, first.state.records ++ records⟩ := by
  intro first second
  obtain ⟨hfits, hends⟩ := ends_resolveFile_ok.1 ⟨h, rfl⟩
  obtain ⟨visits, htour, hlaw, hfirst⟩ := exists_tour_of_ends hends
  have hagain : Lawful tree first.state.dirs visits := by
    rw [hfirst]
    exact hlaw.again (htour.found lines rfl)
  obtain ⟨hlines, hsecond⟩ := ends_resolveFile_ok.2 ⟨hfits, htour.ends first.state hagain⟩
  exact ⟨hlines, added visits, visits.filterMap Visit.record?, hfirst, hsecond⟩

/-- The file `x` is found in `e`, and again when `d`, which has another `x`, has been added behind it. -/
theorem resolveFile_again_shadowed :
    let tree : FileTree := ⟨[
      ({ names := [['a']] },
        .file (some "! include [](x)\n! include [](d/y)\n! include [](z)\n".toList)),
      ({ names := [['d']] }, .directory),
      ({ names := [['d'], ['x']] }, .file (some "other\n".toList)),
      ({ names := [['d'], ['y']] }, .file (some "! include-path .\n".toList)),
      ({ names := [['d'], ['z']] }, .file (some "found later\n".toList)),
      ({ names := [['e']] }, .directory),
      ({ names := [['e'], ['x']] }, .file (some "found first\n".toList))]⟩
    let lines : List Line := [⟨"found first\n".toList, some ⟨0, [['e'], ['x']]⟩, 1⟩,
      ⟨"found later\n".toList, some ⟨0, [['d'], ['z']]⟩, 1⟩]
    let first := (resolveFile { maxIncludeDepth := 1 } 9 tree ⟨0, [['a']]⟩).run { dirs := [⟨0, [['e']]⟩] }
    let second := (resolveFile { maxIncludeDepth := 1 } 9 tree ⟨0, [['a']]⟩).run first.state
    first.result = .ok lines ∧ second.result = .ok lines ∧ ∃ dirs records,
      first.state = ⟨[⟨0, [['e']]⟩] ++ dirs, [] ++ records⟩ ∧
      second.state = ⟨first.state.dirs ++ dirs, first.state.records ++ records⟩ := by
  intro tree lines first second
  have hfirst : first.result = .ok lines := by decide +kernel
  exact ⟨hfirst, resolveFile_again hfirst⟩

end Literate.Include
