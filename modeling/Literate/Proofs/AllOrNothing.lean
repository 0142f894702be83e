import Mathlib
import Literate.Command
import Literate.Proofs.FileTrees

/-! # All or nothing

A job of the command changes files only in its last stage, by the one write that completes it. Whatever
goes wrong before, the tree the job leaves has at most grown by directories. A job that is completed has
found a source, a target and directories to search (`Site`), and leaves the tree of that site with nothing
changed but the target, which holds the lines that came of the source. In between is a job that breaks
off: a line that came of the source cannot be written, and the target is left with the lines before it
(`perform_all_or_nothing`).

All of this holds on every host, so for every language of extension code that touches no files itself.

The stages are taken one by one. The environment is checked, which lets the tree grow
(`grows_checkEnvironment`) and settles the site (`of_ends_checkEnvironment`). The self test and the
processing leave the tree alone (`keeps_runSelfTest`, `ends_process`). Writing the result changes nothing
but the target, and that only if it can be opened (`of_ends_writeResult_ok`,
`of_ends_writeResult_error`). -/

namespace Literate

open Run

variable {σ τ ε ι α : Type} {view : σ → τ}

theorem SelfTest.keeps_examine (dev : Bool) (isMet : Condition → Except Failure Bool) :
    ∀ checks : List Check, (examine dev isMet checks : Run σ Bool).Keeps view
  | [] => keeps_pure _
  | check :: checks => by
      have hrest (met : Bool) : (do
          let others ← examine dev isMet checks
          return met && others : Run σ Bool).Keeps view :=
        (keeps_examine dev isMet checks).bind fun _ => keeps_pure _
      refine (keeps_ofResult _).bind fun met => ?_
      cases met with
      | true => exact hrest true
      | false =>
          cases dev with
          | true => exact (keeps_note _).bind fun _ => hrest false
          | false => exact (keeps_fail _).bind fun _ => hrest false

theorem SelfTest.keeps_run (host : Host ε ι α) (documents : Documents)
    (settings : Except Failure Settings) (stack : Nat) (dev : Bool) :
    (run host documents settings stack dev : Run σ Bool).Keeps view := by
  refine (keeps_progress _ _).bind fun _ => (keeps_aside _ _).bind fun texts => ?_
  split
  · cases dev with
    | true => exact (keeps_note _).bind fun _ => keeps_pure _
    | false => exact keeps_fail _
  · exact (keeps_examine _ _ _).bind fun _ => (keeps_progress _ _).bind fun _ => keeps_pure _

namespace Command

/-! ### The stages before the last -/

/-- Where a job takes place: the document, the file of the result, the directories that are searched for
included files, and the tree in which the directory of the result is there. -/
structure Site where
  source : Path
  target : Path
  dirs : List Path
  tree : FileTree

/-- The site of a job that is started in a tree. -/
structure Located (settings : Settings) (job : Job) (tree : FileTree) (site : Site) : Prop where
  source : pathIn job.inputDir job.inputFile = .ok site.source
  isFile : tree.isFile site.source = .ok true
  target : pathIn job.outputDir job.outputFile = .ok site.target
  dirs : ∃ asked, findIncludeDirs tree job.inputDir job.includePath = .ok (.ok asked) ∧
    site.dirs = settings.includeDirs.map Path.ofText ++ asked
  made : (Directory.ensureAll site.target.parent).Ends tree (.ok ()) site.tree

/-- The site that a job says, in a tree. -/
def Job.site (job : Job) (tree : FileTree) : Site := ⟨job.source, job.target, job.includeDirs, tree⟩

variable {host : Host ε ι α} {settings : Settings} {stack : Nat} {documents : SelfTest.Documents}
  {job job' : Job} {site : Site} {tree tree' : FileTree}

theorem grows_checkEnvironment (settings : Settings) (job : Job) :
    (checkEnvironment settings job).Grows := by
  refine (keeps_progress _ _).grows.bind fun _ => keeps_get.grows.bind fun tree =>
    (keeps_ofResult _).grows.bind fun source => (keeps_ofResult _).grows.bind fun isFile => ?_
  cases isFile with
  | false => exact (keeps_pure _).grows
  | true =>
      refine (keeps_progress _ _).grows.bind fun _ => (keeps_ofResult _).grows.bind fun dirs => ?_
      cases dirs with
      | error refusal => exact (keeps_pure _).grows
      | ok dirs =>
          exact (keeps_progress _ _).grows.bind fun _ => (keeps_ofResult _).grows.bind fun target =>
            (Directory.grows_ensureAll _).bind fun _ => (keeps_progress _ _).grows.bind fun _ =>
              (keeps_pure _).grows

/-- A job whose environment was found says its site, and is otherwise the job it was. -/
theorem of_ends_checkEnvironment
    (h : (checkEnvironment settings job).Ends tree (.ok (.ok job')) tree') :
    Located settings job tree (job'.site tree') ∧ job'.weave = job.weave := by
  rw [checkEnvironment, ends_progress_bind, ends_get_bind, ends_ofResult_bind_ok] at h
  obtain ⟨source, hsource, h⟩ := h
  obtain ⟨isFile, hfile, h⟩ := ends_ofResult_bind_ok.1 h
  cases isFile with
  | false => cases (ends_pure_iff.1 h).1
  | true =>
      obtain ⟨asked, hasked, h⟩ := ends_ofResult_bind_ok.1 (ends_progress_bind.1 h)
      cases asked with
      | error refusal => cases (ends_pure_iff.1 h).1
      | ok asked =>
          obtain ⟨target, htarget, h⟩ := ends_ofResult_bind_ok.1 (ends_progress_bind.1 h)
          obtain ⟨⟨⟩, made, hmade, h⟩ := ends_bind_ok.1 h
          rw [ends_progress_bind, ends_pure_iff] at h
          obtain ⟨hjob, rfl⟩ := h
          cases hjob
          exact ⟨⟨hsource, hfile, htarget, ⟨asked, hasked, rfl⟩, hmade⟩, rfl⟩

theorem keeps_runSelfTest (host : Host ε ι α) (settings : Settings) (stack : Nat)
    (documents : SelfTest.Documents) (job : Job) :
    (runSelfTest host settings stack documents job).Keeps id :=
  (keeps_progress _ _).bind fun _ => keeps_get.bind fun _ =>
    (SelfTest.keeps_run _ _ _ _ _).bind fun _ => keeps_pure _

theorem of_ends_runSelfTest
    (h : (runSelfTest host settings stack documents job).Ends tree (.ok job') tree') :
    tree' = tree ∧ job'.site tree' = job.site tree ∧ job'.weave = job.weave := by
  have hkept : tree' = tree :=
    h.2.symm.trans (keeps_runSelfTest host settings stack documents job tree)
  subst hkept
  rw [runSelfTest, ends_progress_bind, ends_get_bind, ends_bind_ok] at h
  obtain ⟨tested, t, -, h⟩ := h
  cases (ends_pure_iff.1 h).1
  exact ⟨rfl, rfl, rfl⟩

/-! ### What comes of the document -/

/-- The texts that the lines of a tangled document are written as; there are none if it has no output
block. -/
def tangled (host : Host ε ι α) (settings : Settings) (stack : Nat) (site : Site) :
    Except Fault (Option (List (Except Failure Text))) :=
  let tangler : Tangler ε ι α :=
    { input := site.source, context := host.fresh settings, search := { dirs := site.dirs } }
  ((Tangler.product (host.engine settings) settings stack site.tree).run tangler).result

/-- The lines that a weaver makes of the document. -/
def woven (settings : Settings) (stack : Nat) (site : Site) : Except Fault (List Text) := do
  let lines ← Include.readLines site.tree site.source
  let weaver : Weaver := { lines, file := site.source, dirs := site.dirs }
  ((Weaver.weave settings stack site.tree).run weaver).result

/-- The texts that a job makes of its document. -/
def processed (host : Host ε ι α) (settings : Settings) (stack : Nat) (weave : Bool) (site : Site) :
    Except Fault (Option (List (Except Failure Text))) :=
  if weave then (woven settings stack site).map fun lines => some (lines.map .ok)
  else tangled host settings stack site

theorem ends_weave (settings : Settings) (stack : Nat) (job : Job) (tree : FileTree) :
    (weave settings stack job).Ends tree (woven settings stack (job.site tree)) tree := by
  rw [weave, ends_progress_bind, ends_get_bind]
  unfold woven
  dsimp only [Job.site]
  cases Include.readLines tree job.source with
  | error fault => exact (ends_fail fault tree).bind_error
  | ok lines => exact (ends_pure lines tree).bind ⟨rfl, rfl⟩

theorem ends_tangle (host : Host ε ι α) (settings : Settings) (stack : Nat) (job : Job)
    (tree : FileTree) :
    (tangle host settings stack job).Ends tree (tangled host settings stack (job.site tree)) tree :=
  ⟨rfl, rfl⟩

/-- Processing leaves the tree alone, and adds the texts to the job. -/
theorem ends_process (host : Host ε ι α) (settings : Settings) (stack : Nat) (job : Job)
    (tree : FileTree) : (process host settings stack job).Ends tree
      ((processed host settings stack job.weave (job.site tree)).map fun lines => { job with lines })
      tree := by
  unfold process processed
  split
  · have hwoven := (ends_weave settings stack job tree).map
      (f := fun lines => { job with lines := some (lines.map .ok) })
    cases hlines : woven settings stack (job.site tree) with
    | error fault => rwa [hlines] at hwoven
    | ok lines => rwa [hlines] at hwoven
  · exact (ends_tangle host settings stack job tree).map

/-! ### The last stage -/

/-- The target holds a text, and every other place what it held at the site. -/
structure Holds (site : Site) (text : Text) (tree : FileTree) : Prop where
  read : tree.read site.target = .ok text
  others : ∃ place, site.tree.locate site.target = .ok place ∧
    ∀ other, other ≠ place → tree.node? other = site.tree.node? other

/-- What a completed job leaves: the tree of its site if there was nothing to write, and otherwise a tree
in which the target holds the lines. -/
inductive Delivered (site : Site) : Option (List (Except Failure Text)) → FileTree → Prop where
  | nothing : Delivered site none site.tree
  | lines {lines : List Text} {tree : FileTree} (holds : Holds site lines.flatten tree) :
      Delivered site (some (lines.map .ok)) tree

/-- What a job leaves that breaks off in the middle of its texts, because of a failure: the target holds
those before it, and nothing else of what it held. -/
structure BrokenOff (site : Site) (texts : List (Except Failure Text)) (failure : Failure)
    (tree : FileTree) : Prop where
  first : writingEnds texts = .error failure
  holds : Holds site (soundTexts texts).flatten tree

theorem Holds.of_write {text : Text} (h : site.tree.write site.target text = .ok tree) :
    Holds site text tree := by
  obtain ⟨place, hlocate, hnode, htree⟩ := FileTree.write_eq_ok.1 h
  refine ⟨FileTree.read_of_write h, place, hlocate, fun other hother => ?_⟩
  rw [htree, FileTree.node?_put (FileTree.names_ne_nil hnode), if_neg hother]

theorem of_ends_writeResult_ok (h : (writeResult job).Ends tree (.ok job') tree') :
    Delivered (job.site tree) job.lines tree' := by
  unfold writeResult at h
  split at h
  · next hlines =>
      rw [ends_progress_bind, ends_pure_iff] at h
      rw [hlines, h.2]
      exact .nothing
  · next texts hlines =>
      obtain ⟨⟨⟩, written, hwrite, h⟩ := ends_bind_ok.1 h
      obtain ⟨htexts, hwritten⟩ := ends_writeTexts_ok_iff.1 hwrite
      rw [hlines, (ends_pure_iff.1 h).2, htexts]
      exact .lines (.of_write hwritten)

/-- Writing the result fails before the target is open, or it breaks off. -/
theorem of_ends_writeResult_error {fault : Fault}
    (h : (writeResult job).Ends tree (.error fault) tree') : tree' = tree ∨
      ∃ texts failure, job.lines = some texts ∧ BrokenOff (job.site tree) texts failure tree' ∧
        fault = unwritten job.target (.ofFailure failure) := by
  unfold writeResult at h
  split at h
  · cases h.1
  · next texts hlines =>
      have hwrite : (writeTexts job.target texts).Ends tree (.error fault) tree' := by
        rcases ends_bind_error.1 h with hwrite | ⟨a, t, -, hpure⟩
        · exact hwrite
        · cases hpure.1
      cases hopen : tree.openFile job.target with
      | error failure => exact .inl (hwrite.unique (ends_writeTexts_of_error _ hopen)).2
      | ok opened =>
          obtain ⟨place, opened⟩ := opened
          obtain ⟨hfault, rfl⟩ := hwrite.unique (ends_writeTexts_of_openFile _ hopen)
          obtain ⟨failure, hfirst, rfl⟩ := Result.mapError_eq_error.1 hfault.symm
          obtain ⟨hlocate, hnode, -⟩ := FileTree.openFile_eq_ok.1 hopen
          have hholds : Holds (job.site tree) (soundTexts texts).flatten _ :=
            .of_write (FileTree.write_eq_ok.2 ⟨place, hlocate, hnode, rfl⟩)
          exact .inr ⟨texts, failure, hlines, ⟨hfirst, hholds⟩, rfl⟩

theorem ends_report (job : Job) (tree : FileTree) : (report job).Ends tree (.ok ()) tree := by
  unfold report
  split
  · exact ends_progress _ _ tree
  · exact ends_pure () tree

/-! ### All stages -/

/-- What a job comes to that is carried out at a site: it is completed, it fails and has not touched the
tree, or it breaks off. -/
inductive Comes (host : Host ε ι α) (settings : Settings) (stack : Nat) (weave : Bool) (site : Site) :
    Except Fault (Except Refusal Unit) → FileTree → Prop where
  | completed {texts? : Option (List (Except Failure Text))} {tree : FileTree}
      (processed : processed host settings stack weave site = .ok texts?)
      (delivered : Delivered site texts? tree) : Comes host settings stack weave site (.ok (.ok ())) tree
  | failed {fault : Fault} : Comes host settings stack weave site (.error fault) site.tree
  | brokenOff {texts : List (Except Failure Text)} {failure : Failure} {tree : FileTree}
      (processed : processed host settings stack weave site = .ok (some texts))
      (broken : BrokenOff site texts failure tree) :
      Comes host settings stack weave site (.error (unwritten site.target (.ofFailure failure))) tree

theorem of_ends_carryOut {r : Except Fault (Except Refusal Unit)}
    (h : (carryOut host settings stack documents job).Ends tree r tree') :
    Comes host settings stack job.weave (job.site tree) r tree' := by
  rcases (runSelfTest host settings stack documents job).ends_cases tree with
    ⟨job₁, t, htest⟩ | ⟨fault, t, htest⟩
  · obtain ⟨rfl, hsite, hweave⟩ := of_ends_runSelfTest htest
    have hprocess := ends_process host settings stack job₁ t
    have hsame : processed host settings stack job₁.weave (job₁.site t) =
        processed host settings stack job.weave (job.site t) := by
      rw [hsite, hweave]
    rw [hsame] at hprocess
    cases htexts : processed host settings stack job.weave (job.site t) with
    | error fault =>
        rw [htexts] at hprocess
        obtain ⟨rfl, rfl⟩ := h.unique (htest.bind hprocess.bind_error)
        exact .failed
    | ok texts? =>
        rw [htexts] at hprocess
        rcases (writeResult { job₁ with lines := texts? }).ends_cases t with
          ⟨job₂, written, hwrite⟩ | ⟨fault, written, hwrite⟩
        · have hdelivered := of_ends_writeResult_ok hwrite
          obtain ⟨rfl, rfl⟩ := h.unique
            (htest.bind (hprocess.bind (hwrite.bind ((ends_report job₂ written).bind ⟨rfl, rfl⟩))))
          exact .completed htexts (hsite ▸ hdelivered)
        · obtain ⟨rfl, rfl⟩ := h.unique (htest.bind (hprocess.bind hwrite.bind_error))
          rcases of_ends_writeResult_error hwrite with rfl | ⟨texts, failure, hlines, hbroken, rfl⟩
          · exact .failed
          · cases hlines
            have htarget : job₁.target = job.target := congrArg Site.target hsite
            rw [htarget]
            exact .brokenOff htexts (hsite ▸ hbroken)
  · obtain rfl : t = tree :=
      htest.2.symm.trans (keeps_runSelfTest host settings stack documents job tree)
    obtain ⟨rfl, rfl⟩ := h.unique htest.bind_error
    exact .failed

/-- A job that found its site comes to something there; without a site, the tree has at most grown. -/
theorem of_ends_perform {r : Except Fault (Except Refusal Unit)}
    (h : (perform host settings stack documents job).Ends tree r tree') :
    (∃ site, Located settings job tree site ∧ Comes host settings stack job.weave site r tree') ∨
      r ≠ .ok (.ok ()) ∧ tree.GrowsTo tree' := by
  have hgrows := grows_checkEnvironment settings job tree
  rcases (checkEnvironment settings job).ends_cases tree with
    ⟨checked, prepared, hcheck⟩ | ⟨fault, prepared, hcheck⟩
  · rw [hcheck.2] at hgrows
    cases checked with
    | error refusal =>
        obtain ⟨rfl, rfl⟩ := h.unique (hcheck.bind ⟨rfl, rfl⟩)
        exact .inr ⟨by simp, hgrows⟩
    | ok job₁ =>
        obtain ⟨hlocated, hweave⟩ := of_ends_checkEnvironment hcheck
        have hcarried := (carryOut host settings stack documents job₁).ends_self prepared
        obtain ⟨rfl, rfl⟩ := h.unique (hcheck.bind hcarried)
        exact .inl ⟨_, hlocated, hweave ▸ of_ends_carryOut hcarried⟩
  · rw [hcheck.2] at hgrows
    obtain ⟨rfl, rfl⟩ := h.unique hcheck.bind_error
    exact .inr ⟨by simp, hgrows⟩

theorem Located.growsTo (h : Located settings job tree site) : tree.GrowsTo site.tree := by
  rw [← h.made.2]
  exact Directory.grows_ensureAll _ tree

theorem reportOf_tree (job : Job) (outcome : Outcome FileTree (Except Refusal Unit)) :
    (reportOf job outcome).tree = outcome.state := by
  unfold reportOf
  split
  · rfl
  · rfl
  · split <;> rfl

theorem reportOf_ending_eq_zero {job : Job} {outcome : Outcome FileTree (Except Refusal Unit)} :
    (reportOf job outcome).ending = .status 0 ↔ outcome.result = .ok (.ok ()) := by
  unfold reportOf
  split
  · next hresult => simp [hresult]
  · next hresult => simp [hresult]
  · next hresult => split <;> simp [hresult]

/-- **All or nothing, or broken off.** On every host, a job that does not end with status zero leaves
every file as it was and makes none: the tree has at most grown by directories. The one exception is a job
that found its site and made texts of the document there, one of which cannot be written. It ends in the
failure of that text, and nothing has changed but the target, which holds the texts before it. A job that
ends with status zero has found its site too, and if it made texts of the document, all of them are
written: the target holds exactly these lines, and it is the only place that has changed. -/
theorem perform_all_or_nothing (host : Host ε ι α) (settings : Settings) (stack : Nat)
    (documents : SelfTest.Documents) (job : Job) (tree : FileTree) :
    let outcome := (perform host settings stack documents job).run tree
    let report := reportOf job outcome
    (report.ending ≠ .status 0 → tree.GrowsTo report.tree ∨
      ∃ site texts failure, Located settings job tree site ∧ tree.GrowsTo site.tree ∧
        processed host settings stack job.weave site = .ok (some texts) ∧
        outcome.result = .error (unwritten site.target (.ofFailure failure)) ∧
        BrokenOff site texts failure report.tree) ∧
    (report.ending = .status 0 → ∃ site texts?, Located settings job tree site ∧
      tree.GrowsTo site.tree ∧ processed host settings stack job.weave site = .ok texts? ∧
      Delivered site texts? report.tree) := by
  dsimp only
  rw [ne_eq, reportOf_ending_eq_zero, reportOf_tree]
  have hends := (perform host settings stack documents job).ends_self tree
  generalize (perform host settings stack documents job).run tree = outcome at hends
  rcases of_ends_perform hends with ⟨site, hlocated, hcomes⟩ | ⟨hne, hgrows⟩
  · have hmade := hlocated.growsTo
    obtain ⟨result, after, log⟩ := outcome
    dsimp only at hcomes ⊢
    cases hcomes with
    | completed htexts hdelivered =>
        exact ⟨fun h => absurd rfl h, fun _ => ⟨site, _, hlocated, hmade, htexts, hdelivered⟩⟩
    | failed => exact ⟨fun _ => .inl hmade, nofun⟩
    | brokenOff htexts hbroken =>
        exact ⟨fun _ => .inr ⟨site, _, _, hlocated, hmade, htexts, rfl, hbroken⟩, nofun⟩
  · exact ⟨fun _ => .inl hgrows, fun h => absurd h hne⟩

/-- Of two documents, one refers to a block that is not there. The directory of the result is made for
both, but only the other is written. -/
theorem perform_missing_block_and_sound :
    let document (text : String) : FileTree :=
      ⟨[({ names := ["i".toList] }, .directory),
        ({ names := ["i".toList, "a".toList] }, .file (some text.toList))]⟩
    let job : Job :=
      { inputDir := ⟨0, ["i".toList]⟩, outputDir := ⟨0, ["o".toList]⟩, dev := true,
        inputFile := some "a".toList, outputFile := some "b".toList }
    let outcome (tree : FileTree) := (perform Script.host {} 9 ⟨[], []⟩ job).run tree
    let report (tree : FileTree) := reportOf job (outcome tree)
    let broken := document "```\n⦅b⦆\n```\n"
    let sound := document "```\nx\n```\n"
    ((report broken).ending ≠ .status 0 ∧ (broken.GrowsTo (report broken).tree ∨
        ∃ site texts failure, Located {} job broken site ∧ broken.GrowsTo site.tree ∧
          processed Script.host {} 9 false site = .ok (some texts) ∧
          (outcome broken).result = .error (unwritten site.target (.ofFailure failure)) ∧
          BrokenOff site texts failure (report broken).tree) ∧
      (report broken).tree.look ⟨0, ["o".toList]⟩ = .ok .directory) ∧
    (report sound).ending = .status 0 ∧
      (∃ site texts?, Located {} job sound site ∧ sound.GrowsTo site.tree ∧
        processed Script.host {} 9 false site = .ok texts? ∧
        Delivered site texts? (report sound).tree) ∧
      (report sound).tree.read ⟨0, ["o".toList, "b".toList]⟩ = .ok "x".toList := by
  intro document job outcome report broken sound
  have hbroken : (report broken).ending ≠ .status 0 ∧
      (report broken).tree.look ⟨0, ["o".toList]⟩ = .ok .directory := by decide +kernel
  have hsound : (report sound).ending = .status 0 ∧
      (report sound).tree.read ⟨0, ["o".toList, "b".toList]⟩ = .ok "x".toList := by decide +kernel
  refine ⟨⟨hbroken.1, ?_, hbroken.2⟩, hsound.1, ?_, hsound.2⟩
  · exact (perform_all_or_nothing Script.host {} 9 ⟨[], []⟩ job broken).1 hbroken.1
  · exact (perform_all_or_nothing Script.host {} 9 ⟨[], []⟩ job sound).2 hsound.1

/-- Extension code can make a line that no file can hold. The job fails, and what the target held is
gone. -/
theorem perform_spoils_target :
    let target : Place := { names := ["out".toList, "b".toList] }
    let tree : FileTree :=
      ⟨[({ names := ["in".toList] }, .directory),
        ({ names := ["in".toList, "a.lmd".toList] },
          .file (some "``` python !\nblocks[''] = ['\\ud800']\n```\n".toList)),
        ({ names := ["out".toList] }, .directory), (target, .file (some "kept".toList))]⟩
    let job : Job :=
      { inputDir := ⟨0, ["in".toList]⟩, outputDir := ⟨0, ["out".toList]⟩, dev := true,
        inputFile := some "a.lmd".toList, outputFile := some "b".toList }
    let report := reportOf job ((perform Script.host {} 9 ⟨[], []⟩ job).run tree)
    report.ending = .failed (.ofFailure .unencodable) ∧ report.tree.node? target = some (.file (some [])) ∧
      ¬tree.GrowsTo report.tree := by
  intro target tree job report
  have hreport : report.ending = .failed (.ofFailure .unencodable) ∧
      report.tree.node? target = some (.file (some [])) := by decide +kernel
  have hkept : tree.node? target = some (.file (some "kept".toList)) := by decide +kernel
  refine ⟨hreport.1, hreport.2, fun hgrows => ?_⟩
  rcases hgrows target with hsame | ⟨hnone, -⟩
  · rw [hreport.2, hkept] at hsame
    cases hsame
  · rw [hkept] at hnone
    cases hnone

end Command
end Literate
