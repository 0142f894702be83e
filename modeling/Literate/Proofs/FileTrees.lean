import Mathlib
import Literate.Proofs.Run

/-! # Trees that change

What the operations on a file tree do to what stands at its places. Putting a node somewhere changes that
place and no other (`node?_put`). A file that was written is read back (`read_of_write`), because writing
it has not changed the way to it (`locate_put`). Texts are written up to the first one that cannot be
(`ends_writeTexts_of_openFile`).

Making directories only lets a tree grow: every place holds what it held before, or a directory where
there was nothing (`GrowsTo`). This also holds of directories that are made one after the other until one
cannot be made (`grows_ensureAll`). -/

namespace Literate

namespace FileTree

variable {tree tree' : FileTree} {path : Path} {place other : Place} {node : Node} {text : Text}

/-! ### Putting a node at a place -/

theorem lookup_map_replace (place other : Place) (node : Node) : ∀ nodes : List (Place × Node),
    (nodes.map fun entry => if entry.1 = place then (place, node) else entry).lookup other =
      if other = place then (nodes.lookup place).map fun _ => node else nodes.lookup other
  | [] => by simp
  | entry :: nodes => by
      rw [List.map_cons, List.lookup_cons, List.lookup_cons, List.lookup_cons,
        lookup_map_replace place other node nodes]
      by_cases hentry : entry.1 = place
      · subst hentry
        by_cases hother : other = entry.1
        · simp [hother]
        · have hne : (other == entry.1) = false := by simpa using hother
          simp [hother, hne]
      · by_cases hother : other = entry.1
        · subst hother
          simp [hentry]
        · have hplace : (place == entry.1) = false := by simpa using Ne.symm hentry
          have hne : (other == entry.1) = false := by simpa using hother
          simp [hentry, hplace, hne]

/-- Putting a node at a place changes what stands there, and nothing else. -/
theorem node?_put (hplace : place.names ≠ []) : (tree.put place node).node? other =
    if other = place then some node else tree.node? other := by
  have hempty : other.names.isEmpty = true → other ≠ place := by
    rintro hnames rfl
    exact hplace (List.isEmpty_iff.1 hnames)
  unfold put node?
  cases hfound : tree.nodes.lookup place with
  | none =>
      by_cases hother : other = place
      · subst hother
        simp [hplace, List.lookup_append, hfound]
      · have hne : (other == place) = false := by simpa using hother
        simp [hother, List.lookup_append, List.lookup_cons, hne]
  | some old =>
      by_cases hnames : other.names.isEmpty = true
      · simp [hnames, hempty hnames]
      · simp only [hnames, Option.isSome_some, if_true, lookup_map_replace, hfound, Option.map_some]
        simp

theorem put_put (place : Place) (node node' : Node) :
    (tree.put place node).put place node' = tree.put place node' := by
  unfold put
  cases hfound : tree.nodes.lookup place with
  | none =>
      have hlookup : (tree.nodes ++ [(place, node)]).lookup place = some node := by
        simp [List.lookup_append, hfound]
      have hnodes : (tree.nodes.map fun entry => if entry.1 = place then (place, node') else entry) =
          tree.nodes := by
        refine (List.map_congr_left fun entry hentry => if_neg ?_).trans (List.map_id _)
        have hne := List.lookup_eq_none_iff.1 hfound entry hentry
        rw [bne_iff_ne] at hne
        exact hne.symm
      simp [hlookup, hnodes]
  | some old =>
      have hlookup := lookup_map_replace place place node tree.nodes
      rw [if_pos rfl, hfound] at hlookup
      simp only [Option.isSome_some, if_true, hlookup, Option.map_some, List.map_map]
      congr 2
      funext entry
      by_cases hentry : entry.1 = place <;> simp [hentry]

theorem names_ne_nil (h : tree.node? place ≠ some .directory) : place.names ≠ [] := by
  intro hnames
  exact h (by simp [node?, hnames])

/-! ### Files that are written -/

/-- A walk goes through directories only, so it does not notice what is put where none stands. -/
theorem walk_put (hplace : tree.node? place ≠ some .directory) : ∀ {names : List Text}
    {first last : Place}, tree.walk first names = .ok last →
    (tree.put place node).walk first names = .ok last
  | [], _, _, h => h
  | name :: names, first, last, h => by
      rw [walk] at h ⊢
      have hfirst : tree.node? first = some .directory := by
        cases hnode : tree.node? first with
        | none =>
            rw [hnode] at h
            cases h
        | some found =>
            cases found with
            | directory => rfl
            | file text? =>
                rw [hnode] at h
                cases h
      have hne : first ≠ place := by
        rintro rfl
        exact hplace hfirst
      rw [node?_put (names_ne_nil hplace), if_neg hne, hfirst]
      rw [hfirst] at h
      dsimp only at h ⊢
      split at h
      · cases h
      · next hlength =>
          rw [if_neg hlength]
          exact walk_put hplace h

theorem locate_put (hplace : tree.node? place ≠ some .directory) {found : Place}
    (h : tree.locate path = .ok found) : (tree.put place node).locate path = .ok found := by
  unfold locate at h ⊢
  split at h
  · cases h
  · next hnull =>
      split at h
      · cases h
      · next hlength =>
          rw [if_neg hnull, if_neg hlength]
          split at h
          · next hwalk =>
              rw [walk_put hplace hwalk]
              exact h
          · cases h

theorem openFile_eq_ok : tree.openFile path = .ok (place, tree') ↔
    tree.locate path = .ok place ∧ tree.node? place ≠ some .directory ∧
      tree' = tree.put place (.file (some [])) := by
  unfold openFile
  rw [Result.bind_eq_ok]
  constructor
  · rintro ⟨found, hlocate, h⟩
    split at h
    · cases h
    · next hnode =>
        cases h
        exact ⟨hlocate, hnode, rfl⟩
  · rintro ⟨hlocate, hnode, rfl⟩
    refine ⟨place, hlocate, ?_⟩
    split
    · next hdirectory => exact absurd hdirectory hnode
    · rfl

theorem extend_put (hplace : place.names ≠ []) (before text : Text) :
    (tree.put place (.file (some before))).extend place text =
      tree.put place (.file (some (before ++ text))) := by
  unfold extend
  simp only [node?_put hplace, if_true, put_put]

theorem write_eq_ok : tree.write path text = .ok tree' ↔
    ∃ place, tree.locate path = .ok place ∧ tree.node? place ≠ some .directory ∧
      tree' = tree.put place (.file (some text)) := by
  unfold write
  rw [Result.bind_eq_ok]
  constructor
  · rintro ⟨⟨place, opened⟩, hopen, h⟩
    obtain ⟨hlocate, hnode, rfl⟩ := openFile_eq_ok.1 hopen
    refine ⟨place, hlocate, hnode, ?_⟩
    rw [← Except.ok.inj h]
    exact extend_put (names_ne_nil hnode) [] text
  · rintro ⟨place, hlocate, hnode, rfl⟩
    refine ⟨(place, _), openFile_eq_ok.2 ⟨hlocate, hnode, rfl⟩, ?_⟩
    exact congrArg Except.ok (extend_put (names_ne_nil hnode) [] text)

theorem read_of_write (h : tree.write path text = .ok tree') : tree'.read path = .ok text := by
  obtain ⟨place, hlocate, hnode, rfl⟩ := write_eq_ok.1 h
  have hnames := names_ne_nil hnode
  have hthere : (tree.put place (.file (some text))).node? place = some (.file (some text)) := by
    rw [node?_put hnames, if_pos rfl]
  have hlook : (tree.put place (.file (some text))).look path = .ok (.file (some text)) := by
    unfold look
    refine Result.bind_eq_ok.2 ⟨place, locate_put hnode hlocate, ?_⟩
    rw [hthere]
  exact Result.bind_eq_ok.2 ⟨_, hlook, rfl⟩

/-! ### Trees that grow -/

/-- Every place holds what it held, or a directory where there was nothing. -/
def GrowsTo (tree tree' : FileTree) : Prop :=
  ∀ place, tree'.node? place = tree.node? place ∨
    tree.node? place = none ∧ tree'.node? place = some .directory

theorem growsTo_refl (tree : FileTree) : tree.GrowsTo tree := fun _ => .inl rfl

theorem GrowsTo.trans {tree'' : FileTree} (h : tree.GrowsTo tree') (h' : tree'.GrowsTo tree'') :
    tree.GrowsTo tree'' := by
  intro place
  rcases h' place with hsame | ⟨hnone, hnew⟩
  · rw [hsame]
    exact h place
  · rcases h place with hsame | ⟨-, hdirectory⟩
    · exact .inr ⟨hsame.symm.trans hnone, hnew⟩
    · rw [hdirectory] at hnone
      cases hnone

theorem growsTo_of_makeDirectory (h : tree.makeDirectory path = .ok tree') : tree.GrowsTo tree' := by
  obtain ⟨place, -, h⟩ := Result.bind_eq_ok.1 h
  cases hnode : tree.node? place with
  | some node => simp [hnode] at h
  | none =>
      simp only [hnode, Except.ok.injEq] at h
      subst h
      have hlacks : tree.node? place ≠ some .directory := by simp [hnode]
      intro other
      rw [node?_put (names_ne_nil hlacks)]
      by_cases hother : other = place
      · subst hother
        exact .inr ⟨hnode, if_pos rfl⟩
      · exact .inl (if_neg hother)

theorem growsTo_of_ensureDirectory (h : tree.ensureDirectory path = .ok tree') :
    tree.GrowsTo tree' := by
  unfold ensureDirectory at h
  split at h
  · next made hmade =>
      cases h
      exact growsTo_of_makeDirectory hmade
  · obtain ⟨isDirectory, -, h⟩ := Result.bind_eq_ok.1 h
    cases isDirectory with
    | false => cases h
    | true =>
        cases h
        exact growsTo_refl tree

end FileTree

namespace Run

variable {α β : Type}

/-- Whatever the run ends in, it lets the tree grow. -/
def Grows (x : Run FileTree α) : Prop := ∀ tree : FileTree, tree.GrowsTo (x.run tree).state

theorem Keeps.grows {x : Run FileTree α} (hx : x.Keeps id) : x.Grows := by
  intro tree
  rw [show (x.run tree).state = tree from hx tree]
  exact tree.growsTo_refl

theorem Grows.bind {x : Run FileTree α} {f : α → Run FileTree β} (hx : x.Grows)
    (hf : ∀ a, (f a).Grows) : (x >>= f).Grows := by
  intro tree
  have hfirst := hx tree
  rcases x.ends_cases tree with ⟨a, tree', ha⟩ | ⟨fault, tree', hfault⟩
  · rw [ha.2] at hfirst
    rw [(ha.bind ((f a).ends_self tree')).2]
    exact hfirst.trans (hf a tree')
  · rw [hfault.2] at hfirst
    rw [hfault.bind_error.2]
    exact hfirst

end Run

open Run

theorem ends_changeTree_ok {change : FileTree → Except Failure FileTree} {tree tree' : FileTree}
    (h : change tree = .ok tree') : (changeTree change).Ends tree (.ok ()) tree' := by
  refine (ends_get tree).bind ?_
  rw [h]
  exact ⟨rfl, rfl⟩

theorem ends_changeTree_error {change : FileTree → Except Failure FileTree} {tree : FileTree}
    {failure : Failure} (h : change tree = .error failure) :
    (changeTree change).Ends tree (.error (.ofFailure failure)) tree := by
  refine (ends_get tree).bind ?_
  rw [h]
  exact ⟨rfl, rfl⟩

/-! ### Texts that are written -/

section Texts

variable {path : Path} {texts : List (Except Failure Text)} {tree tree' : FileTree}

/-- The texts before the first that cannot be written. -/
def soundTexts : List (Except Failure Text) → List Text
  | .ok text :: rest => text :: soundTexts rest
  | _ => []

theorem soundTexts_map_ok : ∀ lines : List Text, soundTexts (lines.map .ok) = lines
  | [] => rfl
  | line :: lines => congrArg (line :: ·) (soundTexts_map_ok lines)

/-- What writing texts to an open file ends in. -/
def writingEnds (texts : List (Except Failure Text)) : Except Failure Unit := texts.forM fun text => do
  let _ ← text

theorem writingEnds_eq_ok : writingEnds texts = .ok () ↔ texts = (soundTexts texts).map .ok := by
  induction texts with
  | nil => exact iff_of_true rfl rfl
  | cons text rest ih =>
      cases text with
      | error failure => exact ⟨nofun, nofun⟩
      | ok text =>
          refine Iff.trans ih ?_
          simp [soundTexts]

theorem ends_addTexts {place : Place} (hplace : place.names ≠ []) (before : Text) :
    (addTexts place texts).Ends (tree.put place (.file (some before)))
      ((writingEnds texts).mapError .ofFailure)
      (tree.put place (.file (some (before ++ (soundTexts texts).flatten)))) := by
  induction texts generalizing before with
  | nil =>
      simp only [soundTexts, List.flatten_nil, List.append_nil]
      exact ends_pure () _
  | cons text rest ih =>
      cases text with
      | error failure =>
          simp only [soundTexts, List.flatten_nil, List.append_nil]
          exact ends_fail _ _
      | ok text =>
          have hrest := ih (before ++ text)
          rw [← FileTree.extend_put hplace, List.append_assoc] at hrest
          exact hrest

/-- Once the file is open, what it held is gone, and the texts before the first that cannot be written
have taken its place. -/
theorem ends_writeTexts_of_openFile {place : Place} (texts : List (Except Failure Text))
    (h : tree.openFile path = .ok (place, tree')) :
    (writeTexts path texts).Ends tree
      ((writingEnds texts).mapError fun failure => unwritten path (.ofFailure failure))
      (tree.put place (.file (some (soundTexts texts).flatten))) := by
  obtain ⟨-, hnode, rfl⟩ := FileTree.openFile_eq_ok.1 h
  have hopen : (openForWriting path).Ends tree (.ok place) (tree.put place (.file (some []))) := by
    refine (ends_get tree).bind ?_
    rw [h]
    exact ⟨rfl, rfl⟩
  have hfill : (fillFile path texts).Ends tree ((writingEnds texts).mapError .ofFailure)
      (tree.put place (.file (some (soundTexts texts).flatten))) :=
    hopen.bind (ends_addTexts (FileTree.names_ne_nil hnode) [])
  have hwritten := hfill.mapFault (f := unwritten path)
  cases hends : writingEnds texts with
  | ok _ =>
      rw [hends] at hwritten
      exact hwritten.bind (ends_progress _ _ _)
  | error failure =>
      rw [hends] at hwritten
      exact hwritten.bind_error

theorem ends_writeTexts_of_error {failure : Failure} (texts : List (Except Failure Text))
    (h : tree.openFile path = .error failure) :
    (writeTexts path texts).Ends tree (.error (unwritten path (.ofFailure failure))) tree := by
  have hopen : (openForWriting path).Ends tree (.error (.ofFailure failure)) tree := by
    refine (ends_get tree).bind ?_
    rw [h]
    exact ⟨rfl, rfl⟩
  have hfill : (fillFile path texts).Ends tree (.error (.ofFailure failure)) tree := hopen.bind_error
  exact (hfill.mapFault (f := unwritten path)).bind_error

theorem ends_writeTexts_ok_iff : (writeTexts path texts).Ends tree (.ok ()) tree' ↔
    texts = (soundTexts texts).map .ok ∧ tree.write path (soundTexts texts).flatten = .ok tree' := by
  cases hopen : tree.openFile path with
  | error failure =>
      have hwrite : tree.write path (soundTexts texts).flatten = .error failure := by
        simp [FileTree.write, hopen, bind, Except.bind]
      have hends := ends_writeTexts_of_error texts hopen
      constructor
      · intro h
        cases (hends.unique h).1
      · rintro ⟨-, h⟩
        rw [hwrite] at h
        cases h
  | ok opened =>
      obtain ⟨found, tree''⟩ := opened
      have hends := ends_writeTexts_of_openFile texts hopen
      obtain ⟨hlocate, hnode, -⟩ := FileTree.openFile_eq_ok.1 hopen
      rw [← writingEnds_eq_ok, FileTree.write_eq_ok]
      constructor
      · intro h
        obtain ⟨hresult, rfl⟩ := hends.unique h
        exact ⟨Result.mapError_eq_ok.1 hresult, found, hlocate, hnode, rfl⟩
      · rintro ⟨hok, place, hplace, -, rfl⟩
        cases hlocate.symm.trans hplace
        rwa [hok] at hends

theorem ends_writeLines_ok_iff {lines : List Text} :
    (writeLines path lines).Ends tree (.ok ()) tree' ↔ tree.write path lines.flatten = .ok tree' := by
  unfold writeLines
  rw [ends_writeTexts_ok_iff, soundTexts_map_ok]
  exact and_iff_right rfl

end Texts

theorem grows_changeTree {change : FileTree → Except Failure FileTree}
    (h : ∀ tree tree' : FileTree, change tree = .ok tree' → tree.GrowsTo tree') :
    (changeTree change).Grows := by
  intro tree
  cases hchange : change tree with
  | error failure =>
      rw [(ends_changeTree_error hchange).2]
      exact tree.growsTo_refl
  | ok tree' =>
      rw [(ends_changeTree_ok hchange).2]
      exact h tree tree' hchange

namespace Directory

theorem grows_ensure (path : Path) : (ensure path).Grows :=
  grows_changeTree fun _ _ => FileTree.growsTo_of_ensureDirectory

theorem grows_ensureNames (path : Path) : ∀ count, (ensureNames path count).Grows
  | 0 => grows_ensure _
  | count + 1 => by
      refine keeps_get.grows.bind fun tree => ?_
      split
      · exact (grows_ensureNames path count).bind fun _ => grows_ensure _
      · exact grows_ensure _

/-- Making a directory and those above it lets the tree grow, also where it fails half way. -/
theorem grows_ensureAll (path : Path) : (ensureAll path).Grows := grows_ensureNames path _

end Directory
end Literate
