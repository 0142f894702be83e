import Mathlib
import Literate.Proofs.Tours

/-! # Files with their includes in place

An `Inlining` of the lines of a file says, for every include directive among them, which file stands in its
place, and how the lines of that file are inlined in turn. Its `lines` are then found by recursion on it,
without a search list and without a bound. So all that is left to the search is which inlining it is: each
file is the one that is found when the include is met (`Lawful`), and none lies too deep.

What the resolver gives are the lines of that inlining (`resolveFile_eq_inlining`), and every line of it is
a line of a file that was read, with its text, its file and its number there. -/

namespace Literate

namespace Include

open Run

variable {tree : FileTree} {maxDepth : Int} {file : Path} {s s' : Search}

/-! ### Inlinings -/

/-- The lines of a file, with an inlining of the file that is included for each include directive. -/
inductive Inlining (tree : FileTree) : Path → List Line → Type where
  | nil {file : Path} : Inlining tree file []
  | keep {file : Path} {rest : List Line} (line : Line) (plain : line.isInclude = false)
      (next : Inlining tree file rest) : Inlining tree file (line :: rest)
  | skip {file : Path} {rest : List Line} {line : Line} (name : Text)
      (directive : Directive.parse? line.text = some (.includePath name))
      (next : Inlining tree file rest) : Inlining tree file (line :: rest)
  | splice {file : Path} {rest inner : List Line} {line : Line} {description : Text} (reference : Text)
      (directive : Directive.parse? line.text = some (.includeFile reference description))
      (target : Path) (read : readLines tree target = .ok inner) (body : Inlining tree target inner)
      (next : Inlining tree file rest) : Inlining tree file (line :: rest)

namespace Inlining

/-- The lines in order: an include directive is replaced by the lines of its file, the directive of a
search directory is removed, and every other line is kept. -/
def lines : {file : Path} → {source : List Line} → Inlining tree file source → List Line
  | _, _, nil => []
  | _, _, keep line _ next => line :: next.lines
  | _, _, skip _ _ next => next.lines
  | _, _, splice _ _ _ _ body next => body.lines ++ next.lines

/-- The directives on the way that name a directory or a file, in order, with the file that an include
leads to; the lines are those of a file at a depth. -/
def visits : {file : Path} → {source : List Line} → Int → Inlining tree file source → List Visit
  | _, _, _, nil => []
  | _, _, depth, keep _ _ next => next.visits depth
  | file, _, depth, skip name _ next => .directory file name :: next.visits depth
  | file, _, depth, splice reference _ target _ body next =>
    .inclusion file reference (depth + 1) (.ok target) :: body.visits (depth + 1) ++ next.visits depth

/-- How deep includes are nested. -/
def height : {file : Path} → {source : List Line} → Inlining tree file source → Nat
  | _, _, nil => 0
  | _, _, keep _ _ next => next.height
  | _, _, skip _ _ next => next.height
  | _, _, splice _ _ _ _ body next => max (body.height + 1) next.height

theorem tour {source : List Line} (inlining : Inlining tree file source) {depth : Int}
    (h : depth + inlining.height ≤ maxDepth) :
    Tour tree maxDepth depth file (.ok source) (inlining.visits depth) (.ok inlining.lines) := by
  induction inlining generalizing depth with
  | nil => exact .finished (by simpa [height] using h)
  | keep line plain next ih =>
      simp only [height] at h
      exact .kept (by omega) plain (ih h)
  | skip name directive next ih =>
      simp only [height] at h
      exact .noted (by omega) directive (ih h)
  | splice reference directive target read body next ihbody ihnext =>
      simp only [height] at h
      have hbody : Tour tree maxDepth (depth + 1) target (.ok _) (body.visits (depth + 1))
          (.ok body.lines) := ihbody (by omega)
      rw [← read] at hbody
      exact .through (by omega) directive hbody (ihnext (by omega))

end Inlining

/-- Every tour that comes to its end goes along an inlining within the bound. -/
theorem Tour.exists_inlining {depth : Int} {read result : Except Fault (List Line)}
    {visits : List Visit} (h : Tour tree maxDepth depth file read visits result) :
    ∀ source out, read = .ok source → result = .ok out →
      ∃ inlining : Inlining tree file source, inlining.lines = out ∧
        inlining.visits depth = visits ∧ depth + inlining.height ≤ maxDepth := by
  induction h with
  | unreadable fault =>
      intro source out hread
      cases hread
  | tooDeep hdepth =>
      intro source out hread hout
      cases hout
  | finished hdepth =>
      rintro _ _ ⟨⟩ ⟨⟩
      exact ⟨.nil, rfl, rfl, by simpa [Inlining.height] using hdepth⟩
  | @kept _ _ line rest _ result hdepth hline hrest ih =>
      rintro _ out ⟨⟩ hout
      cases result with
      | error fault => cases hout
      | ok others =>
          obtain ⟨next, rfl, rfl, hheight⟩ := ih rest others rfl rfl
          cases hout
          exact ⟨.keep line hline next, rfl, rfl, hheight⟩
  | @noted _ _ line rest name _ _ hdepth hline hrest ih =>
      rintro _ out ⟨⟩ hout
      obtain ⟨next, rfl, rfl, hheight⟩ := ih rest out rfl hout
      exact ⟨.skip name hline next, rfl, rfl, hheight⟩
  | lost hdepth hline =>
      intro source out hread hout
      cases hout
  | stopped hdepth hline hinner ih =>
      intro source out hread hout
      cases hout
  | @through _ _ target line rest inner reference _ _ _ result hdepth hline hinner hrest ihinner
      ihrest =>
      rintro _ out ⟨⟩ hout
      cases result with
      | error fault => cases hout
      | ok others =>
          cases hout
          cases hlines : readLines tree target with
          | error fault =>
              rw [hlines] at hinner
              cases hinner
          | ok source =>
              obtain ⟨body, rfl, rfl, hbody⟩ := ihinner source inner hlines rfl
              obtain ⟨next, rfl, rfl, hnext⟩ := ihrest rest others rfl rfl
              refine ⟨.splice reference hline target hlines body next, rfl, rfl, ?_⟩
              simp only [Inlining.height]
              omega

/-! ### Where a line comes from -/

/-- The line has the text that stands at its number in its file. -/
def IsLineOf (tree : FileTree) (line : Line) : Prop :=
  ∃ path lines, ∃ index : Nat, line.source = some path ∧ line.number = index + 1 ∧
    readLines tree path = .ok lines ∧ lines[index]? = some line

theorem exists_of_readLines {lines : List Line} (h : readLines tree file = .ok lines) :
    ∃ text, tree.read file = .ok text ∧ lines = Line.ofFile file text := by
  unfold readLines at h
  split at h
  · next text hread => exact ⟨text, hread, (Except.ok.inj h).symm⟩
  · cases h
  · cases h

theorem isLineOf_of_readLines {lines : List Line} (h : readLines tree file = .ok lines) :
    ∀ line ∈ lines, IsLineOf tree line := by
  intro line hline
  obtain ⟨index, hindex⟩ := List.mem_iff_getElem?.1 hline
  obtain ⟨text, -, rfl⟩ := exists_of_readLines h
  have hnumbered := hindex
  rw [Line.ofFile, Line.getElem?_numbered] at hnumbered
  obtain ⟨content, -, rfl⟩ := Option.map_eq_some_iff.1 hnumbered
  exact ⟨file, _, index, rfl, by simp [add_comm], h, hindex⟩

/-- Nothing comes into an inlining but lines of files that were read. -/
theorem Inlining.isLineOf {source : List Line} (inlining : Inlining tree file source)
    (h : ∀ line ∈ source, IsLineOf tree line) : ∀ line ∈ inlining.lines, IsLineOf tree line := by
  induction inlining with
  | nil => exact h
  | keep line plain next ih =>
      rw [List.forall_mem_cons] at h
      exact List.forall_mem_cons.2 ⟨h.1, ih h.2⟩
  | skip name directive next ih => exact ih (List.forall_mem_cons.1 h).2
  | splice reference directive target read body next ihbody ihnext =>
      exact List.forall_mem_append.2
        ⟨ihbody (isLineOf_of_readLines read), ihnext (List.forall_mem_cons.1 h).2⟩

/-! ### What the resolver gives -/

theorem exists_inlining_of_ends {out : List Line}
    (h : (resolveWithin tree maxDepth file).Ends s (.ok out) s') :
    ∃ source, readLines tree file = .ok source ∧ ∃ inlining : Inlining tree file source,
      inlining.lines = out ∧ inlining.height ≤ maxDepth ∧
      Lawful tree s.dirs (inlining.visits 0) ∧ s' = after s (inlining.visits 0) := by
  obtain ⟨visits, htour, hlaw, rfl⟩ := exists_tour_of_ends h
  cases hread : readLines tree file with
  | error fault =>
      rw [hread] at htour
      cases htour
  | ok source =>
      obtain ⟨inlining, hlines, rfl, hheight⟩ := htour.exists_inlining source out hread rfl
      exact ⟨source, rfl, inlining, hlines, by omega, hlaw, rfl⟩

theorem isLineOf_of_ends {out : List Line}
    (h : (resolveWithin tree maxDepth file).Ends s (.ok out) s') : ∀ line ∈ out, IsLineOf tree line := by
  obtain ⟨source, hread, inlining, rfl, -⟩ := exists_inlining_of_ends h
  exact inlining.isLineOf (isLineOf_of_readLines hread)

/-- **Includes are inlined exactly, and lines keep their provenance.** A run on a file succeeds with some
lines exactly if room can be made for the settings and they are the lines of an inlining of the file, within
the bound, in which each include leads to the file that is found when it is met; the search is then extended
by what was met on the way. And each of the lines has the text that stands at its number in the file it
names. -/
theorem resolveFile_eq_inlining (settings : Settings) (stack : Nat) (tree : FileTree) (file : Path)
    (s : Search) (out : List Line) :
    (∀ s', (resolveFile settings stack tree file).Ends s (.ok out) s' ↔
      settings.Fits stack ∧
      ∃ source, readLines tree file = .ok source ∧ ∃ inlining : Inlining tree file source,
        inlining.lines = out ∧ inlining.height ≤ settings.maxIncludeDepth ∧
        Lawful tree s.dirs (inlining.visits 0) ∧ s' = after s (inlining.visits 0)) ∧
    (((resolveFile settings stack tree file).run s).result = .ok out →
      ∀ line ∈ out, IsLineOf tree line) := by
  refine ⟨fun s' => ends_resolveFile_ok.trans (and_congr_right fun _ => ⟨exists_inlining_of_ends, ?_⟩),
    fun h => isLineOf_of_ends (ends_resolveFile_ok.1 ⟨h, rfl⟩).2⟩
  rintro ⟨source, hread, inlining, rfl, hheight, hlaw, rfl⟩
  have htour : Tour tree settings.maxIncludeDepth 0 file (.ok source) (inlining.visits 0)
      (.ok inlining.lines) := inlining.tour (by omega)
  rw [← hread] at htour
  exact htour.ends s hlaw

/-- The file `d/q` is included twice: from `p`, beside which it is found, and from `a`, when `d` has come
into the search list. -/
theorem resolveFile_eq_inlining_twice :
    let file : Path := ⟨0, [['a']]⟩
    let part : Path := ⟨0, [['p']]⟩
    let inner : Path := ⟨0, [['d'], ['q']]⟩
    let tree : FileTree := ⟨[
      ({ names := [['a']] },
        .file (some "1\n! include [](p)\n! include-path d\n! include [](q)\n2\n".toList)),
      ({ names := [['p']] }, .file (some "! include [](d/q)\n3".toList)),
      ({ names := [['d']] }, .directory),
      ({ names := [['d'], ['q']] }, .file (some "4\r\n".toList))]⟩
    let out : List Line := [⟨"1\n".toList, some file, 1⟩, ⟨"4\r\n".toList, some inner, 1⟩,
      ⟨['3'], some part, 2⟩, ⟨"4\r\n".toList, some inner, 1⟩, ⟨"2\n".toList, some file, 5⟩]
    ((resolveFile { maxIncludeDepth := 2 } 9 tree file).run {}).result = .ok out ∧
    (∃ source, readLines tree file = .ok source ∧ ∃ inlining : Inlining tree file source,
      inlining.lines = out ∧ Lawful tree [] (inlining.visits 0)) ∧
    IsLineOf tree ⟨['3'], some part, 2⟩ := by
  intro file part inner tree out
  have hresult : ((resolveFile { maxIncludeDepth := 2 } 9 tree file).run {}).result = .ok out := by decide +kernel
  obtain ⟨hinlining, hlines⟩ := resolveFile_eq_inlining { maxIncludeDepth := 2 } 9 tree file {} out
  obtain ⟨-, source, hread, inlining, hout, -, hlaw, -⟩ := (hinlining _).1 ⟨hresult, rfl⟩
  exact ⟨hresult, ⟨source, hread, inlining, hout, hlaw⟩, hlines hresult _ (by simp [out])⟩

end Include
end Literate
