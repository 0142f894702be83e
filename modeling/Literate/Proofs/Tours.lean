import Mathlib
import Literate.Proofs.Includes

/-! # Tours through included files

Resolving the includes of a file goes through the files depth first. A `Tour` is such a way with the
search list left out: which lines it passes, which files it enters and in which order, and what comes
out. A directive on the way that names a file or a directory is a `Visit`. Where the file of an include
is looked for is then a matter of the visits before it: in the directories of the search list at the
start, followed by those of all visits so far, whatever file they were met in (`Lawful`).

Whatever the files hold, there is one lawful way through them (`exists_tour`), and it is the one that the
resolver takes (`Tour.ends`). -/

namespace Literate

theorem Line.include_cases (line : Line) : line.isInclude = false ∨
    (∃ name, Directive.parse? line.text = some (.includePath name)) ∨
    ∃ reference description,
      Directive.parse? line.text = some (.includeFile reference description) := by
  unfold isInclude
  cases Directive.parse? line.text with
  | none => exact .inl rfl
  | some directive =>
      cases directive with
      | includeFile reference description => exact .inr (.inr ⟨reference, description, rfl⟩)
      | includePath name => exact .inr (.inl ⟨name, rfl⟩)
      | _ => exact .inl rfl

/-! ### Files at the end of a path -/

namespace FileTree

variable {tree : FileTree} {path : Path}

/-- A path leads to a file. -/
def HasFile (tree : FileTree) (path : Path) : Prop := ∃ text?, tree.look path = .ok (.file text?)

/-- A path is too long to be looked up, as a whole or in one of its names. -/
def Refuses (tree : FileTree) (path : Path) : Prop :=
  tree.look path = .error (.file .nameTooLong path)

/-- A path can be looked up and leads to no file. -/
def Lacks (tree : FileTree) (path : Path) : Prop := ¬ tree.HasFile path ∧ ¬ tree.Refuses path

theorem eq_of_look_eq_error {obstacle : Obstacle} {named : Path}
    (h : tree.look path = .error (.file obstacle named)) : named = path := by
  rcases Result.bind_eq_error.1 h with hlocate | ⟨place, -, hplace⟩
  · unfold locate at hlocate
    split at hlocate
    · cases hlocate
    · split at hlocate
      · cases hlocate
        rfl
      · split at hlocate
        · cases hlocate
        · cases hlocate
          rfl
  · split at hplace
    · cases hplace
    · cases hplace
      rfl

theorem isFile_eq_true (h : tree.HasFile path) : tree.isFile path = .ok true := by
  obtain ⟨text?, hlook⟩ := h
  simp [isFile, test, hlook]

theorem isFile_eq_error (h : tree.Refuses path) :
    tree.isFile path = .error (.file .nameTooLong path) := by
  unfold Refuses at h
  simp [isFile, test, h]

theorem isFile_eq_false (h : tree.Lacks path) : tree.isFile path = .ok false := by
  obtain ⟨hfile, hrefuses⟩ := h
  unfold isFile test
  split
  · next node hlook =>
      cases node with
      | directory => rfl
      | file text? => exact absurd ⟨text?, hlook⟩ hfile
  · next named hlook =>
      obtain rfl := eq_of_look_eq_error hlook
      exact absurd hlook hrefuses
  · rfl

theorem hasFile_or_refuses_or_lacks (tree : FileTree) (path : Path) :
    tree.HasFile path ∨ tree.Refuses path ∨ tree.Lacks path := by
  by_cases hfile : tree.HasFile path
  · exact .inl hfile
  · by_cases hrefuses : tree.Refuses path
    · exact .inr (.inl hrefuses)
    · exact .inr (.inr ⟨hfile, hrefuses⟩)

end FileTree

namespace Include

open Run

variable {tree : FileTree} {maxDepth depth : Int} {file : Path} {s s' : Search}

/-! ### Finding the file of an include -/

/-- What looking for a file with a search list comes to. The first candidate at which a file stands is
used. If there is none, the include is reported with the file it stands in and the search list. A
candidate that is too long to be looked up ends the search, unless a file was found before it. -/
inductive Finds (tree : FileTree) (dirs : List Path) (file : Path) (reference : Text) :
    Except Fault Path → Prop
  | used {before after : List Path} {path : Path}
      (hpaths : candidates dirs file reference = before ++ path :: after)
      (hbefore : ∀ p ∈ before, tree.Lacks p) (hpath : tree.HasFile path) :
      Finds tree dirs file reference (.ok path)
  | missing (hpaths : ∀ p ∈ candidates dirs file reference, tree.Lacks p) :
      Finds tree dirs file reference (.error (.ofProblem (.includeMissing reference file dirs)))
  | refused {before after : List Path} {path : Path}
      (hpaths : candidates dirs file reference = before ++ path :: after)
      (hbefore : ∀ p ∈ before, tree.Lacks p) (hpath : tree.Refuses path) :
      Finds tree dirs file reference (.error (.ofFailure (.file .nameTooLong path)))

theorem firstFile?_append {before : List Path} (h : ∀ p ∈ before, tree.Lacks p)
    (rest : List Path) : firstFile? tree (before ++ rest) = firstFile? tree rest := by
  induction before with
  | nil => rfl
  | cons path before ih =>
      rw [List.forall_mem_cons] at h
      rw [List.cons_append, firstFile?, FileTree.isFile_eq_false h.1, ← ih h.2]
      rfl

theorem exists_first (tree : FileTree) : ∀ paths : List Path,
    (∀ p ∈ paths, tree.Lacks p) ∨ ∃ before path after, paths = before ++ path :: after ∧
      (∀ p ∈ before, tree.Lacks p) ∧ (tree.HasFile path ∨ tree.Refuses path)
  | [] => .inl (by simp)
  | path :: rest => by
      rcases tree.hasFile_or_refuses_or_lacks path with hfile | hrefuses | hlacks
      · exact .inr ⟨[], path, rest, rfl, by simp, .inl hfile⟩
      · exact .inr ⟨[], path, rest, rfl, by simp, .inr hrefuses⟩
      · rcases exists_first tree rest with hrest | ⟨before, first, after, rfl, hbefore, hfirst⟩
        · exact .inl (List.forall_mem_cons.2 ⟨hlacks, hrest⟩)
        · exact .inr ⟨path :: before, first, after, rfl,
            List.forall_mem_cons.2 ⟨hlacks, hbefore⟩, hfirst⟩

theorem exists_finds (tree : FileTree) (dirs : List Path) (file : Path) (reference : Text) :
    ∃ outcome, Finds tree dirs file reference outcome := by
  rcases exists_first tree (candidates dirs file reference) with
    hall | ⟨before, path, after, hpaths, hbefore, hfile | hrefuses⟩
  · exact ⟨_, .missing hall⟩
  · exact ⟨_, .used hpaths hbefore hfile⟩
  · exact ⟨_, .refused hpaths hbefore hrefuses⟩

theorem Finds.ends_find {reference : Text} {outcome : Except Fault Path}
    (h : Finds tree s.dirs file reference outcome) :
    (find tree file reference).Ends s outcome s := by
  refine (ends_get s).bind ?_
  dsimp only
  cases h with
  | @used before after path hpaths hbefore hpath =>
      have hfirst : firstFile? tree (path :: after) = .ok (some path) := by
        rw [firstFile?, FileTree.isFile_eq_true hpath]
        rfl
      rw [hpaths, firstFile?_append hbefore, hfirst]
      exact ends_pure _ s
  | missing hpaths =>
      have hfirst := firstFile?_append hpaths []
      rw [List.append_nil] at hfirst
      rw [hfirst]
      exact ends_fail _ s
  | @refused before after path hpaths hbefore hpath =>
      have hfirst : firstFile? tree (path :: after) = .error (.file .nameTooLong path) := by
        rw [firstFile?, FileTree.isFile_eq_error hpath]
        rfl
      rw [hpaths, firstFile?_append hbefore, hfirst]
      exact ends_fail _ s

/-- A file that is found stays found when the search list goes on. -/
theorem Finds.of_isPrefix {dirs dirs' : List Path} {reference : Text} {target : Path}
    (h : Finds tree dirs file reference (.ok target)) (hdirs : dirs <+: dirs') :
    Finds tree dirs' file reference (.ok target) := by
  obtain ⟨more, rfl⟩ := hdirs
  cases h with
  | @used before after _ hpaths hbefore hpath =>
      have hmore : candidates (dirs ++ more) file reference =
          before ++ target :: (after ++ more.map (·.join (.ofText reference))) := by
        unfold candidates at hpaths ⊢
        rw [← List.cons_append, List.map_append, hpaths]
        simp
      exact .used hmore hbefore hpath

/-! ### Visits -/

/-- A directive that is met in a file: a directory to search, or a file to include, with the nesting of
that file and what came of looking for it. -/
inductive Visit where
  | directory (file : Path) (name : Text)
  | inclusion (file : Path) (reference : Text) (depth : Int) (outcome : Except Fault Path)

namespace Visit

/-- The directory that a visit adds to the search list. A relative one is seen from the directory of the
file it was met in. -/
def dir? : Visit → Option Path
  | directory file name => some (file.parent.join (.ofText name))
  | inclusion _ _ _ _ => none

/-- The record of an include whose file was found. -/
def record? : Visit → Option IncludeRecord
  | inclusion _ reference depth (.ok target) => some ⟨reference, target, depth⟩
  | _ => none

end Visit

/-- The directories that visits add, in order. -/
def added (visits : List Visit) : List Path := visits.filterMap Visit.dir?

theorem added_append (visits more : List Visit) :
    added (visits ++ more) = added visits ++ added more := List.filterMap_append

/-- The search as visits leave it. -/
def after (s : Search) (visits : List Visit) : Search where
  dirs := s.dirs ++ added visits
  records := s.records ++ visits.filterMap Visit.record?

theorem after_append (s : Search) (visits more : List Visit) :
    after s (visits ++ more) = after (after s visits) more := by
  simp [after, added]

theorem after_nil (s : Search) : after s [] = s := by
  simp [after, added]

theorem after_directory (s : Search) (name : Text) : after s [.directory file name] =
    { s with dirs := s.dirs ++ [file.parent.join (.ofText name)] } := by
  simp [after, added, Visit.dir?, Visit.record?, List.filterMap_cons]

theorem after_found (s : Search) (reference : Text) (target : Path) :
    after s [.inclusion file reference depth (.ok target)] =
      { s with records := s.records ++ [⟨reference, target, depth⟩] } := by
  simp [after, added, Visit.dir?, Visit.record?, List.filterMap_cons]

theorem after_lost (s : Search) (reference : Text) (fault : Fault) :
    after s [.inclusion file reference depth (.error fault)] = s := by
  simp [after, added, Visit.dir?, Visit.record?, List.filterMap_cons]

/-- Every include among the visits is looked for in the directories at the start, followed by those of
the visits before it. -/
def Lawful (tree : FileTree) (dirs : List Path) (visits : List Visit) : Prop :=
  ∀ before file reference depth outcome rest,
    visits = before ++ .inclusion file reference depth outcome :: rest →
    Finds tree (dirs ++ added before) file reference outcome

theorem lawful_nil (dirs : List Path) : Lawful tree dirs [] := by
  intro before file reference depth outcome rest h
  simp at h

theorem lawful_append (dirs : List Path) (visits more : List Visit) :
    Lawful tree dirs (visits ++ more) ↔
      Lawful tree dirs visits ∧ Lawful tree (dirs ++ added visits) more := by
  constructor
  · intro h
    refine ⟨fun before file reference depth outcome rest he => ?_,
      fun before file reference depth outcome rest he => ?_⟩
    · exact h before file reference depth outcome (rest ++ more) (by rw [he]; simp)
    · have hfinds := h (visits ++ before) file reference depth outcome rest (by rw [he]; simp)
      rwa [added_append, ← List.append_assoc] at hfinds
  · rintro ⟨hvisits, hmore⟩ before file reference depth outcome rest he
    rcases List.append_eq_append_iff.1 he with ⟨between, rfl, hrest⟩ | ⟨between, rfl, hrest⟩
    · have hfinds := hmore between file reference depth outcome rest hrest
      rwa [added_append, ← List.append_assoc]
    · cases between with
      | nil =>
          have hfinds := hmore [] file reference depth outcome rest (by simpa using hrest.symm)
          simpa [added] using hfinds
      | cons visit between =>
          obtain ⟨rfl, -⟩ := List.cons.inj hrest
          exact hvisits before file reference depth outcome between rfl

theorem lawful_directory {dirs : List Path} {name : Text} :
    Lawful tree dirs [.directory file name] := by
  intro before file reference depth outcome rest h
  cases before with
  | nil => cases h
  | cons visit before => simp at h

theorem lawful_inclusion {dirs : List Path} {reference : Text} {outcome : Except Fault Path} :
    Lawful tree dirs [.inclusion file reference depth outcome] ↔
      Finds tree dirs file reference outcome := by
  constructor
  · intro h
    simpa [added] using h [] file reference depth outcome [] rfl
  · intro h before file' reference' depth' outcome' rest he
    cases before with
    | nil =>
        cases he
        simpa [added] using h
    | cons visit before => simp at he

/-! ### Tours -/

/-- A way through what was read of a file at a depth, and through the files it includes: the visits made
and what comes out. What the includes lead to is left open.

* What cannot be read, or lies too deep, is not gone through.
* A line that is no include directive of either kind stays.
* The directory of an `include-path` directive is noted, and the line goes.
* An include whose file is not found ends the tour. Otherwise that file is gone through; the tour ends
  there with a fault (`stopped`), or comes back to the lines after the include (`through`). -/
inductive Tour (tree : FileTree) (maxDepth : Int) :
    Int → Path → Except Fault (List Line) → List Visit → Except Fault (List Line) → Prop
  | unreadable {depth : Int} {file : Path} (fault : Fault) :
      Tour tree maxDepth depth file (.error fault) [] (.error fault)
  | tooDeep {depth : Int} {file : Path} {lines : List Line} (hdepth : maxDepth < depth) :
      Tour tree maxDepth depth file (.ok lines) [] (.error (.ofProblem (.includeTooDeep depth file)))
  | finished {depth : Int} {file : Path} (hdepth : depth ≤ maxDepth) :
      Tour tree maxDepth depth file (.ok []) [] (.ok [])
  | kept {depth : Int} {file : Path} {line : Line} {rest : List Line} {visits : List Visit}
      {result : Except Fault (List Line)} (hdepth : depth ≤ maxDepth)
      (hline : line.isInclude = false)
      (hrest : Tour tree maxDepth depth file (.ok rest) visits result) :
      Tour tree maxDepth depth file (.ok (line :: rest)) visits (result.map (line :: ·))
  | noted {depth : Int} {file : Path} {line : Line} {rest : List Line} {name : Text}
      {visits : List Visit} {result : Except Fault (List Line)} (hdepth : depth ≤ maxDepth)
      (hline : Directive.parse? line.text = some (.includePath name))
      (hrest : Tour tree maxDepth depth file (.ok rest) visits result) :
      Tour tree maxDepth depth file (.ok (line :: rest)) (.directory file name :: visits) result
  | lost {depth : Int} {file : Path} {line : Line} {rest : List Line} {reference description : Text}
      {fault : Fault} (hdepth : depth ≤ maxDepth)
      (hline : Directive.parse? line.text = some (.includeFile reference description)) :
      Tour tree maxDepth depth file (.ok (line :: rest))
        [.inclusion file reference (depth + 1) (.error fault)] (.error fault)
  | stopped {depth : Int} {file target : Path} {line : Line} {rest : List Line}
      {reference description : Text} {visits : List Visit} {fault : Fault}
      (hdepth : depth ≤ maxDepth)
      (hline : Directive.parse? line.text = some (.includeFile reference description))
      (hinner : Tour tree maxDepth (depth + 1) target (readLines tree target) visits (.error fault)) :
      Tour tree maxDepth depth file (.ok (line :: rest))
        (.inclusion file reference (depth + 1) (.ok target) :: visits) (.error fault)
  | through {depth : Int} {file target : Path} {line : Line} {rest inner : List Line}
      {reference description : Text} {visits more : List Visit}
      {result : Except Fault (List Line)} (hdepth : depth ≤ maxDepth)
      (hline : Directive.parse? line.text = some (.includeFile reference description))
      (hinner : Tour tree maxDepth (depth + 1) target (readLines tree target) visits (.ok inner))
      (hrest : Tour tree maxDepth depth file (.ok rest) more result) :
      Tour tree maxDepth depth file (.ok (line :: rest))
        (.inclusion file reference (depth + 1) (.ok target) :: visits ++ more)
        (result.map (inner ++ ·))

theorem exists_tour (tree : FileTree) {maxDepth : Int} {budget : Nat} {depth : Int}
    (hbudget : (maxDepth + 1 - depth).toNat = budget) (file : Path)
    (read : Except Fault (List Line)) (dirs : List Path) :
    ∃ visits result, Tour tree maxDepth depth file read visits result ∧ Lawful tree dirs visits := by
  induction budget generalizing depth file read dirs with
  | zero =>
      cases read with
      | error fault => exact ⟨[], _, .unreadable fault, lawful_nil dirs⟩
      | ok lines => exact ⟨[], _, .tooDeep (by omega), lawful_nil dirs⟩
  | succ budget ihdeeper =>
      have hdepth : depth ≤ maxDepth := by omega
      have hdeeper : (maxDepth + 1 - (depth + 1)).toNat = budget := by omega
      cases read with
      | error fault => exact ⟨[], _, .unreadable fault, lawful_nil dirs⟩
      | ok lines =>
          induction lines generalizing dirs with
          | nil => exact ⟨[], _, .finished hdepth, lawful_nil dirs⟩
          | cons line rest ihrest =>
              rcases line.include_cases with hline | ⟨name, hline⟩ | ⟨reference, description, hline⟩
              · obtain ⟨visits, result, htour, hlaw⟩ := ihrest dirs
                exact ⟨visits, _, .kept hdepth hline htour, hlaw⟩
              · obtain ⟨visits, result, htour, hlaw⟩ :=
                  ihrest (dirs ++ added [.directory file name])
                exact ⟨_, result, .noted hdepth hline htour,
                  (lawful_append _ _ _).2 ⟨lawful_directory, hlaw⟩⟩
              · obtain ⟨outcome, hfinds⟩ := exists_finds tree dirs file reference
                have hlaw : Lawful tree dirs [.inclusion file reference (depth + 1) outcome] :=
                  lawful_inclusion.2 hfinds
                cases outcome with
                | error fault => exact ⟨_, _, .lost hdepth hline, hlaw⟩
                | ok target =>
                    obtain ⟨visits, result, hinner, hlawInner⟩ :=
                      ihdeeper hdeeper target (readLines tree target) (dirs ++ added [_])
                    have hlaw := (lawful_append _ _ _).2 ⟨hlaw, hlawInner⟩
                    cases result with
                    | error fault => exact ⟨_, _, .stopped hdepth hline hinner, hlaw⟩
                    | ok inner =>
                        obtain ⟨more, result, hrest, hlawRest⟩ := ihrest (dirs ++ added _)
                        exact ⟨_, _, .through hdepth hline hinner hrest,
                          (lawful_append _ _ _).2 ⟨hlaw, hlawRest⟩⟩

/-! ### The resolver step by step -/

theorem resolve_of_lt (hdepth : maxDepth < depth) (lines : List Line) :
    resolve tree maxDepth file depth lines = problem (.includeTooDeep depth file) := by
  have hbudget : (maxDepth + 1 - depth).toNat = 0 := by omega
  unfold resolve
  rw [hbudget]
  rfl

section
variable {line : Line} {rest : List Line} (hdepth : depth ≤ maxDepth)
include hdepth

theorem exists_budget_eq : ∃ budget : Nat, (maxDepth + 1 - depth).toNat = budget + 1 ∧
    (maxDepth + 1 - (depth + 1)).toNat = budget :=
  ⟨(maxDepth - depth).toNat, by omega, by omega⟩

theorem resolve_nil : resolve tree maxDepth file depth [] = pure [] := by
  obtain ⟨budget, hbudget, -⟩ := exists_budget_eq hdepth
  unfold resolve
  rw [hbudget]
  rfl

theorem resolve_cons : resolve tree maxDepth file depth (line :: rest) = (do
    let first ← resolve tree maxDepth file depth [line]
    let others ← resolve tree maxDepth file depth rest
    pure (first ++ others)) := by
  obtain ⟨budget, hbudget, -⟩ := exists_budget_eq hdepth
  unfold resolve
  rw [hbudget]
  exact collect_append _ rest [line]

theorem resolve_kept (hline : line.isInclude = false) :
    resolve tree maxDepth file depth [line] = pure [line] := by
  obtain ⟨budget, hbudget, -⟩ := exists_budget_eq hdepth
  unfold Line.isInclude at hline
  unfold resolve
  rw [hbudget, resolveLines]
  simp only [collect]
  split
  · next hparse =>
      rw [hparse] at hline
      cases hline
  · next hparse =>
      rw [hparse] at hline
      cases hline
  · simp

theorem resolve_noted {name : Text} (hline : Directive.parse? line.text = some (.includePath name)) :
    resolve tree maxDepth file depth [line] = (do
      addDir file name
      pure []) := by
  obtain ⟨budget, hbudget, -⟩ := exists_budget_eq hdepth
  unfold resolve
  rw [hbudget, resolveLines]
  simp [collect, hline]

theorem resolve_inclusion {reference description : Text}
    (hline : Directive.parse? line.text = some (.includeFile reference description)) :
    resolve tree maxDepth file depth [line] = (do
      let target ← find tree file reference
      record ⟨reference, target, depth + 1⟩
      let lines ← ofExcept (readLines tree target)
      resolve tree maxDepth target (depth + 1) lines) := by
  obtain ⟨budget, hbudget, hdeeper⟩ := exists_budget_eq hdepth
  unfold resolve
  rw [hbudget, hdeeper, resolveLines]
  simp [collect, hline]

end

theorem ends_resolve_cons {line : Line} {rest first : List Line}
    {result : Except Fault (List Line)} {t : Search} (hdepth : depth ≤ maxDepth)
    (hfirst : (resolve tree maxDepth file depth [line]).Ends s (.ok first) t)
    (hrest : (resolve tree maxDepth file depth rest).Ends t result s') :
    (resolve tree maxDepth file depth (line :: rest)).Ends s (result.map (first ++ ·)) s' := by
  rw [resolve_cons hdepth]
  exact hfirst.bind hrest.map

theorem ends_resolve_cons_error {line : Line} {rest : List Line} {fault : Fault}
    (hdepth : depth ≤ maxDepth)
    (hfirst : (resolve tree maxDepth file depth [line]).Ends s (.error fault) s') :
    (resolve tree maxDepth file depth (line :: rest)).Ends s (.error fault) s' := by
  rw [resolve_cons hdepth]
  exact hfirst.bind_error

/-- To include a file that was found is to go through what is read of it. -/
theorem ends_resolve_inclusion {line : Line} {reference description : Text} {target : Path}
    {result : Except Fault (List Line)} (hdepth : depth ≤ maxDepth)
    (hline : Directive.parse? line.text = some (.includeFile reference description))
    (hfinds : Finds tree s.dirs file reference (.ok target))
    (hinner : (ofExcept (readLines tree target) >>= resolve tree maxDepth target (depth + 1)).Ends
      (after s [.inclusion file reference (depth + 1) (.ok target)]) result s') :
    (resolve tree maxDepth file depth [line]).Ends s result s' := by
  rw [resolve_inclusion hdepth hline]
  rw [after_found] at hinner
  have hrecord : (record ⟨reference, target, depth + 1⟩).Ends s (.ok ())
      { s with records := s.records ++ [⟨reference, target, depth + 1⟩] } := ⟨rfl, rfl⟩
  exact hfinds.ends_find.bind (hrecord.bind hinner)

theorem Tour.ends {read result : Except Fault (List Line)} {visits : List Visit}
    (htour : Tour tree maxDepth depth file read visits result) :
    ∀ s : Search, Lawful tree s.dirs visits →
      (ofExcept read >>= resolve tree maxDepth file depth).Ends s result (after s visits) := by
  -- the search is generalised: the inner tour and the rest of the lines start from a longer list
  induction htour with
  | unreadable fault =>
      intro s _
      rw [after_nil]
      exact (ends_fail fault s).bind_error
  | tooDeep hdepth =>
      intro s _
      rw [after_nil]
      refine (ends_pure _ s).bind ?_
      rw [resolve_of_lt hdepth]
      exact ends_fail _ s
  | finished hdepth =>
      intro s _
      rw [after_nil]
      refine (ends_pure _ s).bind ?_
      rw [resolve_nil hdepth]
      exact ends_pure [] s
  | @kept depth file line rest visits result hdepth hline _ ih =>
      intro s hlaw
      have hfirst : (resolve tree maxDepth file depth [line]).Ends s (.ok [line]) s := by
        rw [resolve_kept hdepth hline]
        exact ends_pure [line] s
      exact ends_resolve_cons hdepth hfirst (ih s hlaw)
  | @noted depth file line rest name visits result hdepth hline _ ih =>
      intro s hlaw
      obtain ⟨-, hlaw⟩ := (lawful_append _ [_] _).1 hlaw
      have hfirst : (resolve tree maxDepth file depth [line]).Ends s (.ok [])
          (after s [.directory file name]) := by
        have hadd : (addDir file name).Ends s (.ok ())
            { s with dirs := s.dirs ++ [file.parent.join (.ofText name)] } := ⟨rfl, rfl⟩
        rw [resolve_noted hdepth hline, after_directory]
        exact hadd.bind (ends_pure [] _)
      have hends := ends_resolve_cons hdepth hfirst (ih _ hlaw)
      have hresult : result.map (([] : List Line) ++ ·) = result := by cases result <;> rfl
      rwa [← after_append, hresult] at hends
  | @lost depth file line rest reference description fault hdepth hline =>
      intro s hlaw
      have hfinds := lawful_inclusion.1 hlaw
      have hfirst : (resolve tree maxDepth file depth [line]).Ends s (.error fault) s := by
        rw [resolve_inclusion hdepth hline]
        exact hfinds.ends_find.bind_error
      rw [after_lost]
      exact ends_resolve_cons_error hdepth hfirst
  | @stopped depth file target line rest reference description visits fault hdepth hline _ ih =>
      intro s hlaw
      obtain ⟨hfinds, hlaw⟩ := (lawful_append _ [_] _).1 hlaw
      have hinner := ih (after s [_]) hlaw
      rw [← after_append] at hinner
      exact ends_resolve_cons_error hdepth
        (ends_resolve_inclusion hdepth hline (lawful_inclusion.1 hfinds) hinner)
  | @through depth file target line rest inner reference description visits more result hdepth hline
      _ _ ihinner ihrest =>
      intro s hlaw
      obtain ⟨hlaw, hlawRest⟩ := (lawful_append _ _ _).1 hlaw
      obtain ⟨hfinds, hlaw⟩ := (lawful_append _ [_] _).1 hlaw
      have hfirst := ends_resolve_inclusion hdepth hline (lawful_inclusion.1 hfinds)
        (ihinner _ hlaw)
      rw [← after_append] at hfirst
      have hends := ends_resolve_cons hdepth hfirst (ihrest _ hlawRest)
      rwa [← after_append] at hends

/-! ### Whole files -/

theorem ends_resolveFile {settings : Settings} {stack : Nat} {result : Except Fault (List Line)} :
    (resolveFile settings stack tree file).Ends s result s' ↔
      settings.Fits stack ∧ (resolveWithin tree settings.maxIncludeDepth file).Ends s result s' ∨
      ¬settings.Fits stack ∧ result = .error (.ofFailure noRoom) ∧ s' = s :=
  ends_withRoom

theorem ends_resolveFile_ok {settings : Settings} {stack : Nat} {out : List Line} :
    (resolveFile settings stack tree file).Ends s (.ok out) s' ↔
      settings.Fits stack ∧ (resolveWithin tree settings.maxIncludeDepth file).Ends s (.ok out) s' :=
  ends_withRoom_ok

theorem exists_tour_of_ends {result : Except Fault (List Line)}
    (h : (resolveWithin tree maxDepth file).Ends s result s') :
    ∃ visits, Tour tree maxDepth 0 file (readLines tree file) visits result ∧
      Lawful tree s.dirs visits ∧ s' = after s visits := by
  obtain ⟨visits, result', htour, hlaw⟩ := exists_tour tree rfl file (readLines tree file) s.dirs
  obtain ⟨rfl, rfl⟩ := h.unique (htour.ends s hlaw)
  exact ⟨visits, htour, hlaw, rfl⟩

end Include
end Literate
