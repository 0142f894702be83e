import Mathlib
import Literate.Proofs.Escape
import Literate.Proofs.Extraction
import Literate.Proofs.Includes
import Literate.Proofs.Session
import Literate.Proofs.Texts

/-! # Programs come back verbatim

Any program can be written into a document and comes back as it was. Its lines are protected, cut into
fragments of the root in one language, and put between fences with prose around them (`document`).
Tangling the document gives the lines of the program, the last one without its terminator
(`tangle_verbatim`).

The lines of a file are `Row`s, which cannot hold a terminator in their middle, so that splitting the
file finds them again (`Row.splitLines_rows`). The proof then follows the document through the stages:
a line that is no directive and no fence of extension code passes the includes and the conditions
(`Include.ends_resolveWithin`, `Sieve.ends_select`), the fences pair up and their fragments form one root
(`assemble_excerpts`), nobody adjusts it (`Script.ends_adjust`), and a protected root expands to itself
and loses exactly the escapes it was given (`Script.ends_expand_protect`). -/

namespace Literate

open Text

/-! ### Rows -/

theorem Text.plain_of_all {t : Text} (h : (t.all fun c => !isNewline c) = true) :
    ∀ c ∈ t, isNewline c = false := by
  intro c hc
  simpa using List.all_eq_true.1 h c hc

/-- A line of a file: its content and whether a carriage return stands before the line feed that
ends it. -/
structure Row where
  content : Text
  carriage : Bool
  plain : ∀ c ∈ content, isNewline c = false

namespace Row

def terminator (row : Row) : Text := if row.carriage then ['\r', '\n'] else ['\n']

def text (row : Row) : Text := row.content ++ row.terminator

theorem terminator_eq (row : Row) : row.terminator = ['\r', '\n'] ∨ row.terminator = ['\n'] := by
  unfold terminator
  cases row.carriage with
  | true => exact .inl rfl
  | false => exact .inr rfl

theorem isNewline_of_mem_terminator {row : Row} {c : Char} (h : c ∈ row.terminator) :
    isNewline c = true := by
  rcases row.terminator_eq with ht | ht <;> rw [ht] at h
  · rcases List.mem_pair.1 h with rfl | rfl <;> rfl
  · obtain rfl := List.mem_singleton.1 h
    rfl

/-- The row with its delimiters escaped. -/
def protect (s : Symbols) (row : Row) : Row where
  content := s.protect row.content
  carriage := row.carriage
  plain := by
    intro c hc
    rcases mem_of_mem_escapeIn hc with rfl | hc
    · by_contra h
      have hblank := isBlank_of_isNewline (by simpa using h)
      rw [s.escape_solid] at hblank
      cases hblank
    · exact row.plain c hc

theorem text_protect (s : Symbols) (row : Row) : (row.protect s).text = s.protect row.text := by
  have hterminator : s.protect row.terminator = row.terminator := escapeIn_of_free fun c hc =>
    s.isDelimiter_of_isBlank (isBlank_of_isNewline (isNewline_of_mem_terminator hc))
  unfold text
  rw [Symbols.protect, escapeIn_append]
  exact congrArg _ hterminator.symm

theorem splitLines_append (row : Row) (rest : Text) :
    splitLines isNewline (row.text ++ rest) = row.text :: splitLines isNewline rest := by
  obtain ⟨content, carriage, plain⟩ := row
  unfold text terminator
  dsimp only
  induction content with
  | nil => cases carriage <;> simp [splitLines, isNewline, pushFront]
  | cons c cs ih =>
      rw [List.forall_mem_cons] at plain
      simp only [List.cons_append, splitLines, plain.1, Bool.false_and]
      rw [if_neg (by simp), ih plain.2]
      rfl

theorem splitLines_rows (rows : List Row) :
    splitLines isNewline (rows.flatMap Row.text) = rows.map Row.text := by
  induction rows with
  | nil => rfl
  | cons row rows ih => rw [List.flatMap_cons, splitLines_append, ih, List.map_cons]

theorem dropTerminator_text (row : Row) : Block.dropTerminator row.text = row.content := by
  obtain ⟨content, carriage, plain⟩ := row
  unfold text terminator Block.dropTerminator
  cases carriage with
  | true => simp [dropLastIf]
  | false =>
      have hlast : content.getLast? ≠ some '\r' := by
        intro h
        have := plain '\r' (List.mem_of_getLast? h)
        cases this
      simp [dropLastIf, hlast]

end Row

/-- Lines as a program gives them: the last one has no terminator. -/
def program : List Row → List Text
  | [] => []
  | [row] => [row.content]
  | row :: next :: rest => row.text :: program (next :: rest)

theorem dropLastTerminator_protect (s : Symbols) : ∀ rows : List Row,
    Block.dropLastTerminator (rows.map fun row => (row.protect s).text) =
      (program rows).map s.protect
  | [] => rfl
  | [row] => congrArg (fun t => [t]) (row.protect s).dropTerminator_text
  | row :: next :: rest => by
      have ih := dropLastTerminator_protect s (next :: rest)
      simp only [List.map_cons, Block.dropLastTerminator, program] at ih ⊢
      rw [ih, Row.text_protect]

/-! ### Documents -/

/-- The language of a fence: a run of word characters, which may be empty. -/
structure Language where
  text : Text
  word : ∀ c ∈ text, isWordChar c = true

theorem Fence.plain_marker : ∀ c ∈ Fence.marker, isNewline c = false :=
  plain_of_all (by decide)

namespace Row

/-- The line that opens a fragment of the root. -/
def opening (language : Language) (carriage : Bool) : Row where
  content := Fence.marker ++ ' ' :: language.text
  carriage := carriage
  plain := by
    intro c hc
    rcases List.mem_append.1 hc with hc | hc
    · exact Fence.plain_marker c hc
    rcases List.mem_cons.1 hc with rfl | hc
    · rfl
    · by_contra h
      have hword := language.word c hc
      simp only [isNewline, Bool.not_eq_false, Bool.or_eq_true, beq_iff_eq] at h
      rcases h with rfl | rfl <;> cases hword

/-- The line that closes a fragment. -/
def closing (carriage : Bool) : Row := ⟨Fence.marker, carriage, Fence.plain_marker⟩

theorem parse?_opening (extensionLanguage : Text) (language : Language) (carriage : Bool) :
    Fence.Header.parse? extensionLanguage (opening language carriage).text =
      some { language := language.text } := by
  have htext : (opening language carriage).text = [] ++ (Fence.marker ++
      ' ' :: (language.text ++ (opening language carriage).terminator)) := by
    simp [text, opening]
  have hend : ∀ c ∈ (opening language carriage).terminator.head?, isNewline c = true :=
    fun c hc => isNewline_of_mem_terminator (List.mem_of_head? hc)
  rw [htext]
  exact Fence.Header.parse?_written extensionLanguage (by simp) language.word hend

theorem parse?_closing (extensionLanguage : Text) (carriage : Bool) :
    ∃ header, Fence.Header.parse? extensionLanguage (closing carriage).text = some header ∧
      header.isExtension = false := by
  refine ⟨_, Fence.Header.parse?_marker extensionLanguage _, ?_⟩
  cases carriage with
  | true => rfl
  | false => rfl

end Row

/-- A fragment of the root and the prose after it. -/
structure Excerpt where
  code : List Row
  prose : List Row := []
  /-- Whether the lines of its fences end in a carriage return and a line feed. -/
  opened : Bool := false
  closed : Bool := false

/-- The lines of an excerpt as they are written. -/
def Excerpt.rows (s : Symbols) (language : Language) (x : Excerpt) : List Row :=
  Row.opening language x.opened :: (x.code.map (Row.protect s) ++ Row.closing x.closed :: x.prose)

/-- The lines of an excerpt other than its fences. -/
def Excerpt.inner (s : Symbols) (x : Excerpt) : List Row := x.code.map (Row.protect s) ++ x.prose

/-- A line with this text is neither a directive nor a fence. -/
structure IsPlain (extensionLanguage t : Text) : Prop where
  noDirective : Directive.parse? t = none
  noFence : Fence.Header.parse? extensionLanguage t = none

instance (extensionLanguage t : Text) : Decidable (IsPlain extensionLanguage t) :=
  decidable_of_iff (Directive.parse? t = none ∧ Fence.Header.parse? extensionLanguage t = none)
    ⟨fun h => ⟨h.1, h.2⟩, fun h => ⟨h.1, h.2⟩⟩

/-- A document: prose, and then fragments of the root in one language, each with prose after it. -/
def document (s : Symbols) (language : Language) (before : List Row) (excerpts : List Excerpt) :
    List Row :=
  before ++ excerpts.flatMap (Excerpt.rows s language)

theorem forall_text_of_map_eq {lines : List Line} {rows : List Row} {P : Text → Prop}
    (h : lines.map Line.text = rows.map Row.text) (hrows : ∀ row ∈ rows, P row.text) :
    ∀ line ∈ lines, P line.text := by
  intro line hline
  have hmem := List.mem_map_of_mem (f := Line.text) hline
  rw [h] at hmem
  obtain ⟨row, hrow, htext⟩ := List.mem_map.1 hmem
  rw [← htext]
  exact hrows row hrow

variable {s : Symbols} {language : Language}

/-! ### Lines that pass -/

/-- A line with this text is neither a directive nor the fence of extension code. -/
structure Passes (extensionLanguage t : Text) : Prop where
  noDirective : Directive.parse? t = none
  noExtension : ∀ header, Fence.Header.parse? extensionLanguage t = some header →
    header.isExtension = false

theorem IsPlain.passes {extensionLanguage t : Text} (h : IsPlain extensionLanguage t) :
    Passes extensionLanguage t where
  noDirective := h.noDirective
  noExtension := by
    intro header hheader
    rw [h.noFence] at hheader
    cases hheader

theorem Row.passes_opening (extensionLanguage : Text) (language : Language) (carriage : Bool) :
    Passes extensionLanguage (Row.opening language carriage).text where
  noDirective := Directive.parse?_marker _
  noExtension := by
    intro header hheader
    rw [Row.parse?_opening] at hheader
    cases hheader
    rfl

theorem Row.passes_closing (extensionLanguage : Text) (carriage : Bool) :
    Passes extensionLanguage (Row.closing carriage).text where
  noDirective := Directive.parse?_marker _
  noExtension := by
    intro header hheader
    obtain ⟨header', hheader', hextension⟩ := Row.parse?_closing extensionLanguage carriage
    rw [hheader'] at hheader
    cases hheader
    exact hextension

theorem passes_document {extensionLanguage : Text} {before : List Row} {excerpts : List Excerpt}
    (hbefore : ∀ row ∈ before, IsPlain extensionLanguage row.text)
    (h : ∀ x ∈ excerpts, ∀ row ∈ x.inner s, IsPlain extensionLanguage row.text) :
    ∀ row ∈ document s language before excerpts, Passes extensionLanguage row.text := by
  intro row hrow
  rcases List.mem_append.1 hrow with hrow | hrow
  · exact (hbefore row hrow).passes
  · obtain ⟨x, hx, hrow⟩ := List.mem_flatMap.1 hrow
    rcases List.mem_cons.1 hrow with rfl | hrow
    · exact Row.passes_opening _ _ _
    · rcases List.mem_append.1 hrow with hcode | hrow
      · exact (h x hx row (List.mem_append_left _ hcode)).passes
      · rcases List.mem_cons.1 hrow with rfl | hprose
        · exact Row.passes_closing _ _
        · exact (h x hx row (List.mem_append_right _ hprose)).passes

theorem Include.ends_resolveWithin {tree : FileTree} {path : Path} {text : Text} {maxDepth : Int}
    (hdepth : 0 ≤ maxDepth) (hread : tree.read path = .ok text)
    (h : ∀ line ∈ Line.ofFile path text, Directive.parse? line.text = none) (search : Search) :
    (resolveWithin tree maxDepth path).Ends search (.ok (Line.ofFile path text)) search := by
  obtain ⟨budget, hbudget⟩ : ∃ budget, (maxDepth + 1 - 0).toNat = budget + 1 :=
    ⟨maxDepth.toNat, by omega⟩
  unfold resolveWithin resolve
  rw [readLines_of_read hread, hbudget]
  refine (Run.ends_pure _ search).bind (ends_resolveLines_of_plain budget search ?_)
  intro line hline
  unfold Line.isInclude
  rw [h line hline]
  rfl

theorem Line.mark_of_noDirective {line : Line} (h : Directive.parse? line.text = none) :
    line.mark = .ordinary := by
  unfold Line.mark
  rw [h]

theorem Extractor.extract_of_passes {extensionLanguage : Text} {lines : List Line}
    (h : ∀ line ∈ lines, Passes extensionLanguage line.text) :
    extract extensionLanguage {} lines = ⟨lines, [], {}⟩ := by
  induction lines with
  | nil => rfl
  | cons line rest ih =>
      rw [List.forall_mem_cons] at h
      have hplain : (Fence.Header.parse? extensionLanguage line.text).any
          Fence.Header.isExtension = false := by
        cases hheader : Fence.Header.parse? extensionLanguage line.text with
        | none => rfl
        | some header => exact h.1.noExtension header hheader
      rw [extract, advance_plain rfl hplain, ih h.2]
      rfl

theorem Sieve.ends_select {ε : Type} {evaluator : Evaluator ε} {extensionLanguage : Text}
    {lines : List Line} (h : ∀ line ∈ lines, Passes extensionLanguage line.text) (c : ε) :
    (select evaluator extensionLanguage lines).Ends c (.ok lines) c := by
  have hextract := Extractor.extract_of_passes h
  have hcodes : (forM (Extractor.extract extensionLanguage {} lines).codes
      evaluator.execute).Ends c (.ok ()) c := by
    rw [hextract]
    exact Run.ends_pure _ c
  have hkeep := ends_keep (fun line hline => Line.mark_of_noDirective (h line hline).noDirective)
    hcodes
  rw [hextract] at hkeep
  have hpass : (pass evaluator extensionLanguage lines).Ends { context := c } (.ok lines)
      { context := c } := hkeep.bind ⟨rfl, rfl⟩
  exact hpass.zoom (fun context => { context }) (fun (s : Sieve ε) _ => s.context) c

/-! ### Fragments and blocks -/

/-- Fragments hold the code of excerpts. -/
def Holds (s : Symbols) (language : Language) : List Fragment → List Excerpt → Prop :=
  List.Forall₂ fun fragment x => fragment.header = { language := language.text } ∧
    fragment.lines = (x.code.map (Row.protect s)).map Row.text

theorem collect_excerpts {extensionLanguage : Text} : ∀ {excerpts : List Excerpt}
    {lines : List Line},
    (∀ x ∈ excerpts, ∀ row ∈ x.inner s, Fence.Header.parse? extensionLanguage row.text = none) →
    lines.map Line.text = (excerpts.flatMap (Excerpt.rows s language)).map Row.text →
    ∃ fragments, Fragment.collectFrom extensionLanguage none lines = .ok fragments ∧
      Holds s language fragments excerpts
  | [], lines, _, hlines => by
      obtain rfl := List.map_eq_nil_iff.1 hlines
      exact ⟨[], rfl, .nil⟩
  | x :: excerpts, lines, h, hlines => by
      rw [List.forall_mem_cons] at h
      obtain ⟨hcode, hprose⟩ := List.forall_mem_append.1 h.1
      simp only [List.flatMap_cons, Excerpt.rows, List.cons_append, List.append_assoc,
        List.map_cons, List.map_append] at hlines
      obtain ⟨first, lines, rfl, hfirst, hlines⟩ := List.map_eq_cons_iff.1 hlines
      obtain ⟨code, lines, rfl, hcodes, hlines⟩ := List.map_eq_append_iff.1 hlines
      obtain ⟨last, lines, rfl, hlast, hlines⟩ := List.map_eq_cons_iff.1 hlines
      obtain ⟨prose, lines, rfl, hproses, hlines⟩ := List.map_eq_append_iff.1 hlines
      obtain ⟨fragments, hcollect, hholds⟩ := collect_excerpts h.2 hlines
      have hcode' := forall_text_of_map_eq
        (P := fun t => Fence.Header.parse? extensionLanguage t = none) hcodes hcode
      have hprose' := forall_text_of_map_eq
        (P := fun t => Fence.Header.parse? extensionLanguage t = none) hproses hprose
      obtain ⟨header, hheader, -⟩ := Row.parse?_closing extensionLanguage x.closed
      have hopen := Row.parse?_opening extensionLanguage language x.opened
      rw [← hfirst] at hopen
      rw [← hlast] at hheader
      refine ⟨⟨{ language := language.text }, code.map Line.text, first⟩ :: fragments, ?_,
        .cons ⟨rfl, hcodes⟩ hholds⟩
      rw [Fragment.collectFrom_opening hopen, Fragment.collectFrom_code hcode',
        Fragment.collectFrom_closing hheader, Fragment.collectFrom_prose hprose', hcollect]
      rfl

namespace Block

/-- Fragments of one language that only add to the root form the root. -/
theorem foldlM_add {language : Text} : ∀ {fragments : List Fragment} (earlier : List Fragment),
    (∀ fragment ∈ fragments, fragment.header = { language }) →
    fragments.foldlM add [([], ⟨[], language, earlier⟩)] =
      .ok [([], ⟨[], language, earlier ++ fragments⟩)]
  | [], earlier, _ => by simp [pure, Except.pure]
  | fragment :: fragments, earlier, h => by
      rw [List.forall_mem_cons] at h
      have hadd : add [([], ⟨[], language, earlier⟩)] fragment =
          .ok [([], ⟨[], language, earlier ++ [fragment]⟩)] := by
        unfold add
        rw [h.1]
        simp [Fence.Header.isExtension, Fence.Header.name, Table.get?, Table.set]
      rw [List.foldlM_cons, hadd]
      have ih := foldlM_add (earlier ++ [fragment]) h.2
      simpa [bind, Except.bind] using ih

theorem group_root {language : Text} {fragment : Fragment} {fragments : List Fragment}
    (h : ∀ f ∈ fragment :: fragments, f.header = { language }) :
    group (fragment :: fragments) = .ok [([], ⟨[], language, fragment :: fragments⟩)] := by
  rw [List.forall_mem_cons] at h
  have hadd : add [] fragment = .ok [([], ⟨[], language, [fragment]⟩)] := by
    unfold add
    rw [h.1]
    simp [Fence.Header.isExtension, Fence.Header.name, Table.get?, Table.set]
  unfold group
  rw [List.foldlM_cons, hadd]
  exact foldlM_add [fragment] h.2

theorem lastReplacingFrom_of_forall {fragments : List Fragment} {index last : Nat}
    (h : ∀ fragment ∈ fragments, fragment.header.replacing = false) :
    lastReplacingFrom index last fragments = last := by
  induction fragments generalizing index with
  | nil => rfl
  | cons fragment fragments ih =>
      rw [List.forall_mem_cons] at h
      simp [lastReplacingFrom, h.1, ih h.2]

theorem body_of_forall {block : Block}
    (h : ∀ fragment ∈ block.fragments, fragment.header.replacing = false) :
    block.body = dropLastTerminator (block.fragments.flatMap Fragment.lines) := by
  unfold body lastReplacing
  rw [lastReplacingFrom_of_forall h, List.drop_zero]

end Block

theorem Holds.header {fragments : List Fragment} {excerpts : List Excerpt}
    (h : Holds s language fragments excerpts) :
    ∀ fragment ∈ fragments, fragment.header = { language := language.text } := by
  unfold Holds at h
  induction h with
  | nil => simp
  | cons hx _ ih => exact List.forall_mem_cons.2 ⟨hx.1, ih⟩

theorem Holds.lines {fragments : List Fragment} {excerpts : List Excerpt}
    (h : Holds s language fragments excerpts) :
    fragments.flatMap Fragment.lines =
      (excerpts.flatMap Excerpt.code).map fun row => (row.protect s).text := by
  unfold Holds at h
  induction h with
  | nil => rfl
  | cons hx _ ih =>
      rw [List.flatMap_cons, List.flatMap_cons, List.map_append, hx.2, ih, List.map_map]
      rfl

/-- The blocks of a document: a root with the code of all excerpts, and no other. -/
theorem assemble_excerpts {extensionLanguage : Text} {before : List Row}
    {excerpts : List Excerpt} {lines : List Line} (hne : excerpts ≠ [])
    (hbefore : ∀ row ∈ before, Fence.Header.parse? extensionLanguage row.text = none)
    (h : ∀ x ∈ excerpts, ∀ row ∈ x.inner s, Fence.Header.parse? extensionLanguage row.text = none)
    (hlines : lines.map Line.text =
      (document s language before excerpts).map Row.text) :
    Block.assemble extensionLanguage lines =
      .ok ⟨some ((program (excerpts.flatMap Excerpt.code)).map s.protect), []⟩ := by
  rw [document, List.map_append] at hlines
  obtain ⟨prose, lines, rfl, hproses, hlines⟩ := List.map_eq_append_iff.1 hlines
  have hprose := forall_text_of_map_eq
    (P := fun t => Fence.Header.parse? extensionLanguage t = none) hproses hbefore
  obtain ⟨fragments, hcollect, hholds⟩ := collect_excerpts h hlines
  have hgroup : Block.group fragments = .ok [([], ⟨[], language.text, fragments⟩)] := by
    cases fragments with
    | nil => exact absurd (List.forall₂_nil_left_iff.1 hholds) hne
    | cons fragment fragments => exact Block.group_root hholds.header
  have hbody : (⟨[], language.text, fragments⟩ : Block).body =
      (program (excerpts.flatMap Excerpt.code)).map s.protect := by
    rw [Block.body_of_forall fun fragment hf => by rw [hholds.header fragment hf]; rfl]
    exact (congrArg Block.dropLastTerminator hholds.lines).trans (dropLastTerminator_protect s _)
  unfold Block.assemble Fragment.collect
  rw [Fragment.collectFrom_prose hprose, hcollect]
  show (do return Block.bodies (← Block.group fragments)) = _
  rw [hgroup]
  show Except.ok (Block.bodies [([], ⟨[], language.text, fragments⟩)]) = _
  simp [Block.bodies, Table.get?, Table.erase, Table.mapValues, hbody]

/-! ### Expansion -/

namespace Expansion

variable {σ β : Type} {c : σ}

theorem ends_expandLine_protect (s : Symbols) {scope : Scope σ β}
    {inner : Body σ β → Run σ (List β)} (t : Text) :
    (expandLine s.delimiters scope inner (s.protect t)).Ends c (.ok [s.protect t]) c := by
  unfold expandLine
  dsimp only
  rw [Segment.quiet_iff.1 (s.quiet_protect t)]
  exact Run.ends_pure _ c

theorem ends_bodyAt_protect (s : Symbols) {maxDepth : Int} (hdepth : 0 ≤ maxDepth)
    (scope : Scope σ β) (hline : ∀ t, (scope.line? (scope.ofText t)).Ends c (.ok (some t)) c)
    (lines : List Text) :
    (bodyAt s.delimiters scope maxDepth 0 (.fixed ((lines.map s.protect).map scope.ofText))).Ends c
      (.ok ((lines.map s.protect).map scope.ofText)) c := by
  obtain ⟨n, hbudget⟩ : ∃ n, budget maxDepth 0 = n + 1 :=
    ⟨maxDepth.toNat, by unfold budget; omega⟩
  unfold bodyAt
  rw [hbudget, List.map_map, expandBody]
  refine (Run.ends_pure _ c).bind ((Run.ends_progress _ _ c).bind ?_)
  show (Run.collect _ _).Ends c _ c
  rw [Run.collect_map]
  exact Run.ends_collect fun t _ =>
    (hline _).bind ((ends_expandLine_protect s t).mapFault.bind (Run.ends_pure _ c))

end Expansion

namespace Script

theorem ends_withRoomOf {α : Type} {x : Run Context α} {c : Context} {r : Except Fault α}
    (settings : Settings) (h : ∀ calls, x.Ends { c with calls } r { c with calls }) :
    (withRoomOf settings x).Ends c r c :=
  ⟨(h _).1, congrArg (fun d => { d with calls := c.calls }) (h _).2⟩

/-- In a context without injected blocks and without a hook the blocks stay as they are assembled. -/
theorem ends_adjust {c : Context} (hinjected : c.injectedEntries = [])
    (hhook : c.globals.get? hookName = none) (bodies : Block.Bodies) :
    (adjust bodies).Ends c (.ok (.plain (bodies.root.map fun lines => lines.map .text)
      (bodies.named.map fun (name, lines) => (Value.text name, lines.map .text)))) c := by
  unfold adjust
  refine (Run.ends_get c).bind ?_
  rw [hinjected]
  refine (Run.ends_pure _ c).bind ((Run.ends_get c).bind ?_)
  rw [hhook]
  exact Run.ends_pure _ c

theorem fresh_injectedEntries (indentUnit : Text) (calls : Nat) :
    Context.injectedEntries { Context.fresh indentUnit with calls } = [] := rfl

theorem fresh_hook (indentUnit : Text) (calls : Nat) :
    ({ Context.fresh indentUnit with calls } : Context).globals.get? hookName = none := rfl

theorem ends_expand_protect (s : Symbols) {settings : Settings} {stack : Nat}
    (hdelimiters : settings.delimiters = s.delimiters) (hdepth : 0 ≤ settings.maxMacroDepth)
    (hfits : settings.Fits stack) (lines : List Text) (named : Table Value (List Value)) (c : Context) :
    (Tangler.expand (engine settings) settings stack
      (.plain (some ((lines.map s.protect).map .text)) named)).Ends c
        (.ok (some (lines.map .text))) c := by
  have hunescape : ((lines.map s.protect).map Value.text).map (unescapeValue s.delimiters) =
      lines.map .text := by
    simp [Function.comp_def, unescapeValue, s.unescape_protect]
  have hbody := Expansion.ends_bodyAt_protect (c := c) s hdepth
    ((engine settings).scope (.plain (some ((lines.map s.protect).map .text)) named))
    (fun t => Run.ends_pure (some t) c) lines
  rw [← hdelimiters] at hbody
  refine (Run.ends_get c).bind ((hbody.withRoom hfits).bind ?_)
  rw [hdelimiters]
  exact hunescape ▸ Run.ends_pure _ c

end Script

/-! ### The whole way -/

namespace Tangler

variable {ε ι α β : Type} {t : Tangler ε ι α}

theorem ends_inSearch {x : Run Search β} {r : Except Fault β} (h : x.Ends t.search r t.search) :
    (inSearch x).Ends t r t :=
  h.zoom Tangler.search (fun search t => { t with search }) t

/-- The stages of tangling one after the other, when none of them changes the context. -/
theorem ends_tangle {engine : Engine ε ι α} {settings : Settings} {stack : Nat} {tree : FileTree}
    {lines kept : List Line} {bodies : Block.Bodies} {assembly : α} {result : List ι}
    (hfits : settings.Fits stack)
    (hresolve : (Include.resolveFile settings (stack + 1) tree t.input).Ends t.search (.ok lines)
      t.search)
    (hselect : (Sieve.select engine.toEvaluator settings.extensionLanguage lines).Ends t.context
      (.ok kept) t.context)
    (hassemble : Block.assemble settings.extensionLanguage kept = .ok bodies)
    (hadjust : (engine.adjust bodies).Ends t.context (.ok assembly) t.context)
    (hexpand : (expand engine settings (stack + 1) assembly).Ends t.context (.ok (some result))
      t.context) :
    (tangle engine settings stack tree).Ends t (.ok (some result))
      { t with assembly := some assembly, root := .expanded result, tangled := true } := by
  have hbodies : (assemble settings kept).Ends t (.ok bodies) t := by
    unfold assemble
    rw [hassemble]
    exact (Run.ends_pure _ t).bind ((Run.ends_progress _ _ t).bind (Run.ends_pure _ t))
  have hresolved : (resolve settings (stack + 1) tree).Ends t (.ok lines) t :=
    (Run.ends_get t).bind ((ends_inSearch hresolve).bind ((Run.ends_get t).bind
      ((Run.ends_progress _ _ t).bind (Run.ends_pure _ t))))
  have hsifted : (sift engine.toEvaluator settings (stack + 1) tree).Ends t (.ok kept) t :=
    hresolved.bind (ends_inContext hselect)
  have hread : (read engine.toEvaluator settings (stack + 1) tree).Ends t (.ok bodies) t :=
    hsifted.bind hbodies
  have hgather : (gather engine settings stack tree).Ends t (.ok assembly) t :=
    (hread.bind (ends_inContext hadjust)).withRoom hfits
  exact ends_tangle_iff.2 (hgather.bind (ends_finish hexpand))

end Tangler

/-- **A program comes back verbatim.** Its lines, protected and cut into fragments of the root of one
language with prose around them, make a file that tangles in a fresh context to the lines of the
program, only the terminator of the last one removed; to no lines, and not to nothing, if the program is
empty. -/
theorem tangle_verbatim (s : Symbols) (language : Language) (before : List Row)
    (excerpts : List Excerpt) (tree : FileTree) (stack : Nat) (hfits : ({} : Settings).Fits (stack + 1))
    (t : Tangler Script.Context Value Script.Assembly) (hne : excerpts ≠ [])
    (hbefore : ∀ row ∈ before, IsPlain ({} : Settings).extensionLanguage row.text)
    (hinner : ∀ x ∈ excerpts, ∀ row ∈ x.inner s,
      IsPlain ({} : Settings).extensionLanguage row.text)
    (hread : tree.read t.input = .ok ((document s language before excerpts).flatMap Row.text))
    (hfresh : t.context = Script.Context.fresh ({} : Settings).indentUnit) :
    let settings : Settings := { delimiters := s.delimiters }
    ((Tangler.tangle (Script.engine settings) settings stack tree).run t).result =
      .ok (some ((program (excerpts.flatMap Excerpt.code)).map .text)) := by
  intro settings
  have hroom : settings.Fits (stack + 1) := hfits
  have htexts : (Line.ofFile t.input ((document s language before excerpts).flatMap Row.text)).map
      Line.text = (document s language before excerpts).map Row.text := by
    unfold Line.ofFile
    rw [Line.map_text_numbered, Row.splitLines_rows]
  generalize hlines : Line.ofFile t.input ((document s language before excerpts).flatMap Row.text) =
    lines at htexts
  have hpasses := forall_text_of_map_eq (P := Passes ({} : Settings).extensionLanguage) htexts
    (passes_document hbefore hinner)
  have hassemble := assemble_excerpts hne (fun row hrow => (hbefore row hrow).noFence)
    (fun x hx row hrow => (hinner x hx row hrow).noFence) htexts
  generalize program (excerpts.flatMap Excerpt.code) = result at hassemble ⊢
  have hresolve : (Include.resolveFile settings (stack + 1) tree t.input).Ends t.search (.ok lines)
      t.search := by
    rw [← hlines] at hpasses ⊢
    have hwithin := Include.ends_resolveWithin (show (0 : Int) ≤ 1000 by decide) hread
      (fun line hline => (hpasses line hline).noDirective) t.search
    exact hwithin.withRoom hroom
  have hadjust : ((Script.engine settings).adjust ⟨some (result.map s.protect), []⟩).Ends t.context
      (.ok (.plain (some ((result.map s.protect).map .text)) [])) t.context := by
    refine Script.ends_withRoomOf settings fun calls => ?_
    rw [hfresh]
    exact Script.ends_adjust (Script.fresh_injectedEntries _ _) (Script.fresh_hook _ _) _
  have hdelimiters : settings.delimiters = s.delimiters := rfl
  have hexpand := Script.ends_expand_protect s hdelimiters
    (show (0 : Int) ≤ 1000 by decide) hroom result [] t.context
  exact (Tangler.ends_tangle (hroom.of_le (Nat.le_succ stack)) hresolve (Sieve.ends_select hpasses _)
    hassemble hadjust hexpand).1

/-- A program with escapes and delimiters of its own, in two fragments. -/
theorem tangle_two_fragments :
    let file : Text := ("# Title\n``` python\nx = '\\\\⦅a\\⦆'\n\r\n```\ntext\n" ++
      "``` python\r\ny\\⦆\r\n```\n").toList
    let tree : FileTree := ⟨[({ names := ["a.md".toList] }, .file (some file))]⟩
    ((Tangler.tangle (Script.engine {}) {} 9 tree).run
        { input := ⟨0, ["a.md".toList]⟩, context := Script.Context.fresh [' ', ' '] }).result =
      .ok (some [.text "x = '\\⦅a⦆'\n".toList, .text "\r\n".toList, .text "y⦆".toList]) := by
  let s : Symbols := ⟨'⦅', '⦆', '\\', by decide, by decide, by decide, rfl, rfl, rfl⟩
  let language : Language := ⟨"python".toList, List.all_eq_true.1 rfl⟩
  let title : Row := ⟨"# Title".toList, false, plain_of_all rfl⟩
  let first : Excerpt :=
    { code := [⟨"x = '\\⦅a⦆'".toList, false, plain_of_all rfl⟩, ⟨[], true, plain_of_all rfl⟩]
      prose := [⟨"text".toList, false, plain_of_all rfl⟩] }
  let second : Excerpt :=
    { code := [⟨"y⦆".toList, true, plain_of_all rfl⟩], opened := true }
  exact tangle_verbatim s language [title] [first, second] _ 9 (by decide) _ (by simp)
    (by decide +kernel) (by decide +kernel) rfl rfl

end Literate
