import Mathlib
import Literate.Proofs.Validation

/-! # Blocks in one pass

Fragments are first grouped by name, and the body of each block is found afterwards, from its last
replacing fragment on. A reader of the document has another picture: each fragment in turn replaces what
its block holds so far, or adds to it (`Block.merge`). The two come to the same (`group_eq_merge`), since
one more fragment changes the body of its block in just this way (`held_concat`).

Grouping fails only where languages are mixed. After any number of fragments, the block of a name holds
the fragments with that name, in order, and has the language of the first of them (`Grouped`); the next
fragment is refused if its own language is another one (`grouped_step`). With the fragments of a document
described apart from how they are collected (`Fragment.Cut`), this gives the bodies of a document
(`assemble_iff_onePass`). -/

namespace Literate

open Text

/-! ### Tables -/

namespace Table

variable {κ α β : Type} [BEq κ] [LawfulBEq κ]

omit [BEq κ] [LawfulBEq κ] in
theorem keys_cons (key : κ) (value : α) (rest : Table κ α) :
    keys ((key, value) :: rest) = key :: rest.keys := rfl

theorem keys_set (table : Table κ α) (key : κ) (value : α) :
    (table.set key value).keys = if key ∈ table.keys then table.keys else table.keys ++ [key] := by
  induction table with
  | nil => rfl
  | cons entry rest ih =>
      obtain ⟨k, v⟩ := entry
      unfold set
      by_cases h : (key == k) = true
      · simp [keys, eq_of_beq h]
      · have hne : key ≠ k := by simpa using h
        rw [if_neg h, keys_cons, keys_cons, ih]
        simp only [List.mem_cons, hne, false_or]
        split <;> rfl

theorem nodup_keys_set {table : Table κ α} (h : table.keys.Nodup) (key : κ) (value : α) :
    (table.set key value).keys.Nodup := by
  rw [keys_set]
  split
  · exact h
  · next hkey =>
      rw [← List.concat_eq_append]
      exact h.concat hkey

theorem keys_erase (table : Table κ α) (key : κ) : (table.erase key).keys = table.keys.erase key := by
  induction table with
  | nil => rfl
  | cons entry rest ih =>
      obtain ⟨k, v⟩ := entry
      unfold erase
      by_cases h : (key == k) = true
      · simp [keys, eq_of_beq h]
      · have hne : k ≠ key := by simpa using Ne.symm (ne_of_beq_false (Bool.eq_false_iff.2 h))
        rw [if_neg h, keys_cons, keys_cons, List.erase_cons_tail (by simpa using hne), ih]

omit [BEq κ] [LawfulBEq κ] in
theorem keys_mapValues (f : α → β) (table : Table κ α) : (table.mapValues f).keys = table.keys := by
  simp [keys, mapValues]

omit [LawfulBEq κ] in
theorem get?_mapValues (f : α → β) (table : Table κ α) (key : κ) :
    (table.mapValues f).get? key = (table.get? key).map f := by
  unfold get? mapValues
  induction table with
  | nil => rfl
  | cons entry rest ih =>
      rw [List.map_cons, List.lookup_cons, List.lookup_cons]
      cases key == entry.1 with
      | true => rfl
      | false => exact ih

omit [LawfulBEq κ] in
theorem mapValues_set (f : α → β) (table : Table κ α) (key : κ) (value : α) :
    (table.set key value).mapValues f = (table.mapValues f).set key (f value) := by
  induction table with
  | nil => rfl
  | cons entry rest ih =>
      obtain ⟨k, v⟩ := entry
      show mapValues f (set ((k, v) :: rest) key value) = set ((k, f v) :: mapValues f rest) key (f value)
      unfold set
      split
      · rfl
      · exact congrArg ((k, f v) :: ·) ih

omit [LawfulBEq κ] in
theorem mapValues_erase (f : α → β) (table : Table κ α) (key : κ) :
    (table.erase key).mapValues f = (table.mapValues f).erase key := by
  induction table with
  | nil => rfl
  | cons entry rest ih =>
      obtain ⟨k, v⟩ := entry
      show mapValues f (erase ((k, v) :: rest) key) = erase ((k, f v) :: mapValues f rest) key
      unfold erase
      split
      · rfl
      · exact congrArg ((k, f v) :: ·) ih

end Table

/-! ### The fragments of a document -/

namespace Fragment

/-- Lines cut into fragments: prose up to a fence, the code up to the next fence, and so on, with prose at
the end. -/
inductive Cut (extensionLanguage : Text) : List Line → List Fragment → Prop
  | prose {lines : List Line}
      (plain : ∀ line ∈ lines, Fence.Header.parse? extensionLanguage line.text = none) :
      Cut extensionLanguage lines []
  | fragment {before code after : List Line} {opening closing : Line} {header other : Fence.Header}
      {fragments : List Fragment}
      (prose : ∀ line ∈ before, Fence.Header.parse? extensionLanguage line.text = none)
      (opens : Fence.Header.parse? extensionLanguage opening.text = some header)
      (plain : ∀ line ∈ code, Fence.Header.parse? extensionLanguage line.text = none)
      (closes : Fence.Header.parse? extensionLanguage closing.text = some other)
      (next : Cut extensionLanguage after fragments) :
      Cut extensionLanguage (before ++ opening :: (code ++ closing :: after))
        (⟨header, code.map Line.text, opening⟩ :: fragments)

variable {extensionLanguage : Text} {lines : List Line} {fragments : List Fragment}

theorem Cut.collect (h : Cut extensionLanguage lines fragments) :
    Fragment.collect extensionLanguage lines = .ok fragments := by
  unfold Fragment.collect
  induction h with
  | @prose lines plain =>
      rw [← List.append_nil lines]
      exact collectFrom_prose plain
  | fragment prose opens plain closes next ih =>
      rw [collectFrom_prose prose, collectFrom_opening opens, collectFrom_code plain,
        collectFrom_closing closes, ih]
      rfl

theorem Cut.prose_cons {line : Line} (h : Cut extensionLanguage lines fragments)
    (hline : Fence.Header.parse? extensionLanguage line.text = none) :
    Cut extensionLanguage (line :: lines) fragments := by
  cases h with
  | prose plain => exact .prose (List.forall_mem_cons.2 ⟨hline, plain⟩)
  | fragment prose opens plain closes next =>
      rw [← List.cons_append]
      exact .fragment (List.forall_mem_cons.2 ⟨hline, prose⟩) opens plain closes next

/-- How collecting goes on: outside of a fragment the lines are cut, and within one there is a fence that
closes it, behind which they are. -/
theorem cut_of_collectFrom : ∀ {lines : List Line} {fragments : List Fragment},
    (collectFrom extensionLanguage none lines = .ok fragments →
      Cut extensionLanguage lines fragments) ∧
    ∀ {current : Fragment}, collectFrom extensionLanguage (some current) lines = .ok fragments →
      ∃ code closing after other others, lines = code ++ closing :: after ∧
        (∀ line ∈ code, Fence.Header.parse? extensionLanguage line.text = none) ∧
        Fence.Header.parse? extensionLanguage closing.text = some other ∧
        Cut extensionLanguage after others ∧
        fragments = { current with lines := current.lines ++ code.map Line.text } :: others
  | [], fragments => by
      refine ⟨fun h => ?_, fun h => ?_⟩
      · cases h
        exact .prose (by simp)
      · cases h
  | line :: rest, fragments => by
      obtain ⟨ihOutside, ihWithin⟩ := @cut_of_collectFrom rest fragments
      cases hheader : Fence.Header.parse? extensionLanguage line.text with
      | none =>
          simp only [collectFrom_plain _ hheader]
          refine ⟨fun h => (ihOutside h).prose_cons hheader, fun h => ?_⟩
          obtain ⟨code, closing, after, other, others, rfl, hcode, hclosing, hafter, rfl⟩ := ihWithin h
          refine ⟨line :: code, closing, after, other, others, rfl,
            List.forall_mem_cons.2 ⟨hheader, hcode⟩, hclosing, hafter, ?_⟩
          simp
      | some header =>
          refine ⟨fun h => ?_, fun {current} h => ?_⟩
          · rw [collectFrom_opening hheader] at h
            obtain ⟨code, closing, after, other, others, rfl, hcode, hclosing, hafter, rfl⟩ := ihWithin h
            have hprose : ∀ line ∈ [], Fence.Header.parse? extensionLanguage (Line.text line) = none := by
              simp
            exact .fragment hprose hheader hcode hclosing hafter
          · obtain ⟨others, hothers, rfl⟩ := (collectFrom_closing_eq_ok_iff hheader).1 h
            refine ⟨[], line, rest, header, others, rfl, by simp, hheader, ?_, by simp⟩
            exact (cut_of_collectFrom).1 hothers

theorem collect_eq_ok_iff :
    Fragment.collect extensionLanguage lines = .ok fragments ↔
      Cut extensionLanguage lines fragments :=
  ⟨cut_of_collectFrom.1, Cut.collect⟩

theorem Cut.iff_eq {other : List Fragment} (h : Cut extensionLanguage lines fragments) :
    Cut extensionLanguage lines other ↔ other = fragments := by
  rw [← collect_eq_ok_iff, h.collect]
  simp [eq_comm]

theorem isExtension_of_mem_blocksOnly {fragment : Fragment} (h : fragment ∈ blocksOnly fragments) :
    fragment.header.isExtension = false := by
  simpa using (List.mem_filter.1 h).2

theorem kind_of_collectFrom {current : Option Fragment} {fault : Fault}
    (h : collectFrom extensionLanguage current lines = .error fault) : fault.kind = .structural := by
  induction lines generalizing current with
  | nil =>
      cases current with
      | none => cases h
      | some fragment =>
          cases h
          rfl
  | cons line rest ih =>
      cases hheader : Fence.Header.parse? extensionLanguage line.text with
      | none =>
          rw [collectFrom_plain current hheader] at h
          exact ih h
      | some header =>
          cases current with
          | none =>
              rw [collectFrom_opening hheader] at h
              exact ih h
          | some fragment =>
              rw [collectFrom_closing hheader, Result.bind_eq_error] at h
              rcases h with h | ⟨others, -, h⟩
              · exact ih h
              · cases h

end Fragment

namespace Block

/-! ### Fragments of one name -/

/-- The fragments with a name. -/
def named (fragments : List Fragment) (name : Text) : List Fragment :=
  fragments.filter fun fragment => fragment.header.name = name

/-- The block that the fragments of one name form, if there are any. -/
def ofFragments? (name : Text) : List Fragment → Option Block
  | [] => none
  | first :: rest => some ⟨name, first.header.language, first :: rest⟩

/-- Some fragment is in another language than the first one with its name. -/
def Mixed (fragments : List Fragment) : Prop :=
  ∃ fragment ∈ fragments, ∃ first,
    fragments.find? (fun other => other.header.name = fragment.header.name) = some first ∧
      fragment.header.language ≠ first.header.language

instance (fragments : List Fragment) : Decidable (Mixed fragments) :=
  decidable_of_iff (∃ fragment ∈ fragments,
    ((fragments.find? fun other => other.header.name = fragment.header.name).any
      fun first => fragment.header.language ≠ first.header.language) = true) (by
    refine exists_congr fun fragment => and_congr_right fun _ => ?_
    simp [Option.any_eq_true])

variable {earlier later : List Fragment} {fragment : Fragment} {blocks : Table Text Block}

theorem find?_concat (name : Text) :
    ((earlier ++ [fragment]).find? fun other => other.header.name = name) =
      ((earlier.find? fun other => other.header.name = name).or
        (if fragment.header.name = name then some fragment else none)) := by
  rw [List.find?_append, List.find?_singleton]
  simp

/-- One fragment more mixes languages if they were mixed, or if it is in another language than the first
one with its name. -/
theorem mixed_concat :
    Mixed (earlier ++ [fragment]) ↔ Mixed earlier ∨
      ∃ first, earlier.find? (fun other => other.header.name = fragment.header.name) = some first ∧
        fragment.header.language ≠ first.header.language := by
  constructor
  · rintro ⟨g, hg, first, hfirst, hne⟩
    rw [find?_concat, Option.or_eq_some_iff] at hfirst
    rcases hfirst with hfirst | ⟨hnone, hlast⟩
    · rcases List.mem_append.1 hg with hg | hg
      · exact .inl ⟨g, hg, first, hfirst, hne⟩
      · obtain rfl := List.mem_singleton.1 hg
        exact .inr ⟨first, hfirst, hne⟩
    · -- then the fragment is the first one with its name, and the only one
      split at hlast
      · obtain rfl := Option.some.inj hlast
        rcases List.mem_append.1 hg with hg | hg
        · simpa using List.find?_eq_none.1 hnone g hg
        · exact absurd (congrArg (fun f => f.header.language) (List.mem_singleton.1 hg)) hne
      · cases hlast
  · rintro (⟨g, hg, first, hfirst, hne⟩ | ⟨first, hfirst, hne⟩)
    · refine ⟨g, List.mem_append_left _ hg, first, ?_, hne⟩
      rw [find?_concat, hfirst]
      rfl
    · refine ⟨fragment, by simp, first, ?_, hne⟩
      rw [find?_concat, hfirst]
      rfl

theorem Mixed.append (h : Mixed earlier) (later : List Fragment) : Mixed (earlier ++ later) := by
  obtain ⟨g, hg, first, hfirst, hne⟩ := h
  refine ⟨g, List.mem_append_left _ hg, first, ?_, hne⟩
  rw [List.find?_append, hfirst]
  rfl

/-- The blocks that fragments have formed: that of a name holds the fragments with the name. -/
def Grouped (fragments : List Fragment) (blocks : Table Text Block) : Prop :=
  ∀ name, blocks.get? name = ofFragments? name (named fragments name)

theorem named_concat_self :
    named (earlier ++ [fragment]) fragment.header.name =
      named earlier fragment.header.name ++ [fragment] := by
  simp [named]

theorem named_concat_of_ne {name : Text} (h : name ≠ fragment.header.name) :
    named (earlier ++ [fragment]) name = named earlier name := by
  simp [named, Ne.symm h]

theorem head?_named (fragments : List Fragment) (name : Text) :
    (named fragments name).head? = fragments.find? fun other => other.header.name = name :=
  List.head?_filter

/-- One fragment more joins the block of its name, unless it is in another language. -/
theorem grouped_step (h : Grouped earlier blocks) (hfragment : fragment.header.isExtension = false) :
    (∃ blocks', add blocks fragment = .ok blocks' ∧ Grouped (earlier ++ [fragment]) blocks' ∧
      (Mixed (earlier ++ [fragment]) → Mixed earlier)) ∨
    ∃ fault, add blocks fragment = .error fault ∧ fault.kind = .structural ∧
      Mixed (earlier ++ [fragment]) := by
  have hset : ∀ block, some block = ofFragments? fragment.header.name
        (named earlier fragment.header.name ++ [fragment]) →
      Grouped (earlier ++ [fragment]) (blocks.set fragment.header.name block) := by
    intro block hblock name
    by_cases hname : name = fragment.header.name
    · rw [hname, Table.get?_set_self, named_concat_self, hblock]
    · rw [Table.get?_set_of_ne _ hname, named_concat_of_ne hname, h name]
  have hhead := head?_named earlier fragment.header.name
  have hget := h fragment.header.name
  unfold add
  rw [if_neg (by simp [hfragment])]
  dsimp only
  cases hnamed : named earlier fragment.header.name with
  | nil =>
      rw [hnamed] at hhead hget hset
      refine .inl ⟨_, by rw [hget]; rfl, hset _ rfl, fun hmixed => ?_⟩
      rcases mixed_concat.1 hmixed with hmixed | ⟨first, hfirst, -⟩
      · exact hmixed
      · rw [← hhead] at hfirst
        cases hfirst
  | cons first rest =>
      rw [hnamed] at hhead hget hset
      rw [hget]
      by_cases hlanguage : fragment.header.language = first.header.language
      · refine .inl ⟨_, if_pos hlanguage, hset _ rfl, fun hmixed => ?_⟩
        rcases mixed_concat.1 hmixed with hmixed | ⟨first', hfirst, hne⟩
        · exact hmixed
        · rw [← hhead] at hfirst
          cases hfirst
          exact absurd hlanguage hne
      · exact .inr ⟨_, if_neg hlanguage, rfl, mixed_concat.2 (.inr ⟨first, hhead.symm, hlanguage⟩)⟩

theorem foldlM_add_cases : ∀ {later earlier : List Fragment} {blocks : Table Text Block},
    Grouped earlier blocks → ¬ Mixed earlier →
    (∀ fragment ∈ later, fragment.header.isExtension = false) →
    (∃ blocks', later.foldlM add blocks = .ok blocks' ∧ Grouped (earlier ++ later) blocks' ∧
      ¬ Mixed (earlier ++ later)) ∨
    ∃ fault, later.foldlM add blocks = .error fault ∧ fault.kind = .structural ∧
      Mixed (earlier ++ later)
  | [], earlier, blocks, h, hmixed, _ => by
      rw [List.append_nil]
      exact .inl ⟨blocks, rfl, h, hmixed⟩
  | fragment :: later, earlier, blocks, h, hmixed, hlater => by
      rw [List.forall_mem_cons] at hlater
      rw [List.foldlM_cons, List.append_cons]
      rcases grouped_step h hlater.1 with ⟨blocks', hadd, hgrouped, hkeeps⟩ | ⟨fault, hadd, hkind, hnow⟩
      · rw [hadd]
        exact foldlM_add_cases hgrouped (fun hnow => hmixed (hkeeps hnow)) hlater.2
      · rw [hadd]
        exact .inr ⟨fault, rfl, hkind, hnow.append later⟩

theorem group_cases (fragments : List Fragment) :
    (∃ blocks, group fragments = .ok blocks ∧ Grouped (Fragment.blocksOnly fragments) blocks ∧
      ¬ Mixed (Fragment.blocksOnly fragments)) ∨
    ∃ fault, group fragments = .error fault ∧ fault.kind = .structural ∧
      Mixed (Fragment.blocksOnly fragments) := by
  have hnone : ¬ Mixed [] := by
    rintro ⟨f, hf, -⟩
    cases hf
  have hstart : Grouped [] [] := fun name => rfl
  rw [← group_blocksOnly]
  exact foldlM_add_cases hstart hnone fun _ => Fragment.isExtension_of_mem_blocksOnly

/-! ### One pass -/

/-- Take in one fragment: its lines replace what its block holds, or are added to it. -/
def mergeOne (bodies : Table Text (List Text)) (fragment : Fragment) : Table Text (List Text) :=
  bodies.set fragment.header.name
    (if fragment.header.replacing then fragment.lines
      else (bodies.get? fragment.header.name).getD [] ++ fragment.lines)

/-- Take in fragments one after the other. -/
def merge (fragments : List Fragment) : Table Text (List Text) := fragments.foldl mergeOne []

/-- The names stand in the order in which they first appear. -/
theorem keys_merge (fragments : List Fragment) :
    (merge fragments).keys = (fragments.map fun fragment => fragment.header.name).eraseDups := by
  unfold merge
  induction fragments using List.reverseRecOn with
  | nil => rfl
  | append_singleton earlier fragment ih =>
      rw [List.foldl_concat, mergeOne, Table.keys_set, ih, List.map_append, List.map_singleton,
        List.eraseDups_append, List.removeAll]
      generalize earlier.map (fun fragment => fragment.header.name) = names
      by_cases hname : fragment.header.name ∈ names
      · simp [hname]
      · simp [hname, List.eraseDups_cons]

theorem nodup_keys_merge (fragments : List Fragment) : (merge fragments).keys.Nodup := by
  unfold merge
  induction fragments using List.reverseRecOn with
  | nil => exact List.nodup_nil
  | append_singleton earlier fragment ih =>
      rw [List.foldl_concat]
      exact Table.nodup_keys_set ih _ _

/-- The lines that a block holds, the last one with its terminator. -/
def held (block : Block) : List Text :=
  (block.fragments.drop block.lastReplacing).flatMap Fragment.lines

theorem lastReplacingFrom_concat (fragment : Fragment) : ∀ (fragments : List Fragment) (index last : Nat),
    lastReplacingFrom index last (fragments ++ [fragment]) =
      if fragment.header.replacing then index + fragments.length
      else lastReplacingFrom index last fragments
  | [], _, _ => rfl
  | first :: rest, index, last => by
      rw [List.cons_append, lastReplacingFrom, lastReplacingFrom_concat fragment rest, List.length_cons]
      congr 1
      omega

theorem lastReplacingFrom_le : ∀ (fragments : List Fragment) (index last : Nat), last ≤ index →
    lastReplacingFrom index last fragments ≤ index + fragments.length
  | [], _, _, h => h
  | first :: rest, index, last, h => by
      have hrest := lastReplacingFrom_le rest (index + 1) (if first.header.replacing then index else last)
        (by split <;> omega)
      rw [lastReplacingFrom, List.length_cons]
      omega

/-- One fragment more replaces what a block holds, or is added to it. -/
theorem held_concat (block : Block) (fragment : Fragment) :
    held { block with fragments := block.fragments ++ [fragment] } =
      if fragment.header.replacing then fragment.lines else held block ++ fragment.lines := by
  unfold held lastReplacing
  dsimp only
  rw [lastReplacingFrom_concat]
  split
  · rw [Nat.zero_add, List.drop_left]
    simp
  · have hle := lastReplacingFrom_le block.fragments 0 0 le_rfl
    rw [Nat.zero_add] at hle
    rw [List.drop_append_of_le_length hle]
    simp

theorem held_singleton (name language : Text) (fragment : Fragment) :
    held ⟨name, language, [fragment]⟩ = fragment.lines := by
  have hlast : lastReplacing ⟨name, language, [fragment]⟩ = 0 := by
    simp [lastReplacing, lastReplacingFrom]
  unfold held
  rw [hlast]
  simp

theorem mapValues_held_of_add {blocks' : Table Text Block}
    (hfragment : fragment.header.isExtension = false) (h : add blocks fragment = .ok blocks') :
    blocks'.mapValues held = mergeOne (blocks.mapValues held) fragment := by
  unfold add at h
  rw [if_neg (by simp [hfragment])] at h
  dsimp only at h
  unfold mergeOne
  rw [Table.get?_mapValues]
  cases hblock : blocks.get? fragment.header.name with
  | none =>
      rw [hblock] at h
      cases h
      rw [Table.mapValues_set, held_singleton]
      simp
  | some block =>
      rw [hblock] at h
      dsimp only at h
      split at h
      · cases h
        rw [Table.mapValues_set, held_concat]
        rfl
      · cases h

theorem mapValues_held_of_foldlM : ∀ {later : List Fragment} {blocks blocks' : Table Text Block},
    (∀ fragment ∈ later, fragment.header.isExtension = false) →
    later.foldlM add blocks = .ok blocks' →
    blocks'.mapValues held = later.foldl mergeOne (blocks.mapValues held)
  | [], blocks, blocks', _, h => by
      cases h
      rfl
  | fragment :: later, blocks, blocks', hlater, h => by
      rw [List.forall_mem_cons] at hlater
      rw [List.foldlM_cons, Result.bind_eq_ok] at h
      obtain ⟨next, hnext, h⟩ := h
      rw [mapValues_held_of_foldlM hlater.2 h, mapValues_held_of_add hlater.1 hnext, List.foldl_cons]

theorem group_eq_merge {fragments : List Fragment} (h : group fragments = .ok blocks) :
    blocks.mapValues held = merge (Fragment.blocksOnly fragments) := by
  rw [← group_blocksOnly] at h
  exact mapValues_held_of_foldlM (fun _ => Fragment.isExtension_of_mem_blocksOnly) h

/-! ### Line ends -/

/-- The ends that a line may have; where two of them fit, the first one counts. -/
def lineEnds : List Text := [['\r', '\n'], ['\n'], ['\r']]

/-- A line without its end, if it has one. -/
def withoutEnd (line : Text) : Text :=
  match lineEnds.find? fun lineEnd => lineEnd.isSuffixOf line with
  | some lineEnd => line.take (line.length - lineEnd.length)
  | none => line

theorem isSuffixOf_concat (e c : Char) (init : Text) : [e].isSuffixOf (init ++ [c]) = (e == c) := by
  rw [Bool.eq_iff_iff, List.isSuffixOf_iff_suffix, List.singleton_suffix_iff_getLast?_eq_some,
    List.getLast?_concat, Option.some.injEq, beq_iff_eq, eq_comm]

theorem isSuffixOf_pair (e e' c : Char) (init : Text) :
    [e, e'].isSuffixOf (init ++ [c]) = (e' == c && [e].isSuffixOf init) := by
  rw [Bool.eq_iff_iff, Bool.and_eq_true, List.isSuffixOf_iff_suffix, List.isSuffixOf_iff_suffix,
    List.suffix_concat_iff]
  constructor
  · rintro (h | ⟨t, ht, hsuffix⟩)
    · cases h
    · have hsplit : [e] ++ [e'] = t ++ [c] := ht
      obtain ⟨rfl, hc⟩ := List.append_inj' hsplit rfl
      exact ⟨by simpa using hc, hsuffix⟩
  · rintro ⟨hc, hsuffix⟩
    exact .inr ⟨[e], by simp [eq_of_beq hc], hsuffix⟩

theorem dropLastIf_concat (e c : Char) (init : Text) :
    dropLastIf e (init ++ [c]) = if c = e then init else init ++ [c] := by
  simp [dropLastIf]

/-- Taking away a line feed and then a carriage return takes away one line end. -/
theorem dropTerminator_eq (line : Text) : dropTerminator line = withoutEnd line := by
  rcases List.eq_nil_or_concat line with rfl | ⟨init, c, rfl⟩
  · rfl
  rw [List.concat_eq_append]
  unfold dropTerminator withoutEnd lineEnds
  simp only [List.find?_cons, isSuffixOf_pair, isSuffixOf_concat, dropLastIf_concat]
  by_cases hfeed : c = '\n'
  · subst hfeed
    rcases List.eq_nil_or_concat init with rfl | ⟨init, b, rfl⟩
    · rfl
    rw [List.concat_eq_append, isSuffixOf_concat, if_pos rfl, dropLastIf_concat]
    by_cases hreturn : b = '\r'
    · simp [hreturn]
    · have hb : ('\r' == b) = false := by simpa using Ne.symm hreturn
      simp [hreturn, hb, List.take_append]
  · have hc : ('\n' == c) = false := by simpa using Ne.symm hfeed
    rw [if_neg hfeed, dropLastIf_concat]
    by_cases hreturn : c = '\r'
    · simp [hreturn]
    · have hc' : ('\r' == c) = false := by simpa using Ne.symm hreturn
      simp [hreturn, hc, hc']

theorem dropLastTerminator_concat (line : Text) : ∀ lines : List Text,
    dropLastTerminator (lines ++ [line]) = lines ++ [dropTerminator line]
  | [] => rfl
  | [_] => rfl
  | first :: next :: rest => congrArg (first :: ·) (dropLastTerminator_concat line (next :: rest))

theorem dropLastTerminator_eq (lines : List Text) :
    dropLastTerminator lines = lines.modifyLast withoutEnd := by
  rcases List.eq_nil_or_concat lines with rfl | ⟨init, line, rfl⟩
  · rfl
  · rw [List.concat_eq_append, dropLastTerminator_concat, List.modifyLast_concat, dropTerminator_eq]

/-- The bodies that one pass over fragments gives. -/
def onePass (fragments : List Fragment) : Bodies :=
  let final := (merge fragments).mapValues fun lines => lines.modifyLast withoutEnd
  ⟨final.get? [], final.erase []⟩

theorem bodies_eq_onePass {fragments : List Fragment} (h : group fragments = .ok blocks) :
    bodies blocks = onePass (Fragment.blocksOnly fragments) := by
  have hbody : body = (fun lines => lines.modifyLast withoutEnd) ∘ held := by
    funext block
    exact dropLastTerminator_eq (held block)
  have hfinal : (merge (Fragment.blocksOnly fragments)).mapValues
      (fun lines => lines.modifyLast withoutEnd) = blocks.mapValues body := by
    rw [← group_eq_merge h, hbody]
    simp [Table.mapValues]
  unfold bodies onePass
  dsimp only
  rw [hfinal, Table.get?_mapValues, Table.mapValues_erase]

/-- The named blocks stand in the order in which their names first appear. -/
theorem keys_onePass (fragments : List Fragment) :
    (onePass fragments).named.keys =
      (fragments.map fun fragment => fragment.header.name).eraseDups.erase [] := by
  unfold onePass
  dsimp only
  rw [Table.keys_erase, Table.keys_mapValues, keys_merge]

theorem nil_not_mem_onePass (fragments : List Fragment) : [] ∉ (onePass fragments).named.keys := by
  unfold onePass
  dsimp only
  rw [Table.keys_erase, Table.keys_mapValues]
  exact (nodup_keys_merge fragments).not_mem_erase

/-! ### The bodies of a document -/

theorem assemble_cases (extensionLanguage : Text) (lines : List Line) :
    (∃ fault, assemble extensionLanguage lines = .error fault ∧ fault.kind = .structural ∧
      Odd (fences extensionLanguage lines)) ∨
    ∃ fragments, Fragment.Cut extensionLanguage lines fragments ∧
      ((∃ fault, assemble extensionLanguage lines = .error fault ∧ fault.kind = .structural ∧
        Mixed (Fragment.blocksOnly fragments)) ∨
      (assemble extensionLanguage lines = .ok (onePass (Fragment.blocksOnly fragments)) ∧
        ¬ Mixed (Fragment.blocksOnly fragments))) := by
  cases hcollect : Fragment.collect extensionLanguage lines with
  | error fault =>
      refine .inl ⟨fault, ?_, Fragment.kind_of_collectFrom hcollect, ?_⟩
      · unfold assemble
        rw [hcollect]
        rfl
      rw [← Nat.not_even_iff_odd, ← Fragment.exists_collect_iff]
      rintro ⟨fragments, hok⟩
      cases hcollect.symm.trans hok
  | ok fragments =>
      refine .inr ⟨fragments, Fragment.collect_eq_ok_iff.1 hcollect, ?_⟩
      have hassemble : assemble extensionLanguage lines =
          group fragments >>= fun blocks => .ok (bodies blocks) := by
        unfold assemble
        rw [hcollect]
        rfl
      rcases group_cases fragments with ⟨blocks, hgroup, -, hmixed⟩ | ⟨fault, hgroup, hkind, hmixed⟩
      · refine .inr ⟨?_, hmixed⟩
        rw [hassemble, hgroup, ← bodies_eq_onePass hgroup]
        rfl
      · refine .inl ⟨fault, ?_, hkind, hmixed⟩
        rw [hassemble, hgroup]
        rfl

/-- **Assembly is one pass.** Lines cannot be assembled if and only if they hold an odd number of fences or
a fragment is in another language than the first one of its block, and the fault is a structural one.
Otherwise the bodies are what one pass over the fragments gives, extension code left out: each fragment
replaces what its block holds or is added to it, and at the end the last line of each block loses its line
end. The named blocks stand in the order in which their names first appear, and the root is not among
them. -/
theorem assemble_iff_onePass (extensionLanguage : Text) (lines : List Line) :
    ((∃ fault, assemble extensionLanguage lines = .error fault) ↔
      Odd (fences extensionLanguage lines) ∨
        ∃ fragments, Fragment.Cut extensionLanguage lines fragments ∧
          Mixed (Fragment.blocksOnly fragments)) ∧
    (∀ fault, assemble extensionLanguage lines = .error fault → fault.kind = .structural) ∧
    (∀ result, assemble extensionLanguage lines = .ok result ↔
      ∃ fragments, Fragment.Cut extensionLanguage lines fragments ∧
        ¬ Mixed (Fragment.blocksOnly fragments) ∧
        result = onePass (Fragment.blocksOnly fragments)) ∧
    ∀ fragments result, Fragment.Cut extensionLanguage lines fragments →
      assemble extensionLanguage lines = .ok result →
      result.named.keys = ((Fragment.blocksOnly fragments).map fun fragment =>
        fragment.header.name).eraseDups.erase [] ∧ [] ∉ result.named.keys := by
  rcases assemble_cases extensionLanguage lines with ⟨fault, hfault, hkind, hodd⟩ |
    ⟨fragments, hcut, ⟨fault, hfault, hkind, hmixed⟩ | ⟨hok, hmixed⟩⟩
  · have hnone : ∀ fragments, ¬ Fragment.Cut extensionLanguage lines fragments := by
      intro fragments hcut
      exact Nat.not_even_iff_odd.2 hodd (Fragment.exists_collect_iff.1 ⟨fragments, hcut.collect⟩)
    rw [hfault]
    simp [hkind, hodd, hnone]
  · have hunique : ∀ other, Fragment.Cut extensionLanguage lines other ↔ other = fragments :=
      fun other => hcut.iff_eq
    rw [hfault]
    simp [hkind, hunique, hmixed]
  · have hunique : ∀ other, Fragment.Cut extensionLanguage lines other ↔ other = fragments :=
      fun other => hcut.iff_eq
    have heven := Nat.not_odd_iff_even.2 (Fragment.exists_collect_iff.1 ⟨fragments, hcut.collect⟩)
    rw [hok]
    simp only [hunique, exists_eq_left]
    refine ⟨by simp [heven, hmixed], fun fault h => (by cases h), fun result => ?_, ?_⟩
    · rw [Except.ok.injEq]
      exact ⟨fun h => ⟨hmixed, h.symm⟩, fun h => h.2.symm⟩
    · rintro _ _ rfl ⟨⟩
      exact ⟨keys_onePass _, nil_not_mem_onePass _⟩

/-- Two blocks and the root in turn; the second fragment of `b` replaces the first. -/
example : assemble "python".toList (Line.ofText none
    ("``` p b\nx\n```\n``` p\nr\n```\n``` p =b\n```\n``` q a\ny\r\n```\n``` p b\nz\n\n```\n" ++
      "``` p\ns\r```\n").toList) =
    .ok ⟨some ["r\n".toList, "s".toList],
      [(['b'], ["z\n".toList, []]), (['a'], ["y".toList])]⟩ := by
  decide +kernel

end Block
end Literate
