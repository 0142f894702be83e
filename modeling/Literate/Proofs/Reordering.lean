import Mathlib
import Literate.Proofs.Merging
import Literate.Proofs.Verbatim

/-! # Fragments in another order

A document may tell its parts in any order: only the order of the fragments of one name matters. What a
list of fragments is grouped to depends, name by name, on the fragments with that name (`Block.Grouped`,
`Block.mixed_iff_named`), and these are the same in a list in which fragments have changed places but
those of one name have not (`Fragment.Reordered`). The named blocks may come in another order then.
Expansion cannot tell, since it looks them up by name (`Script.expand_congr`). -/

namespace Literate

open Text

namespace Table

variable {κ α : Type} [BEq κ] [LawfulBEq κ]

theorem get?_eq_none_of_not_mem {table : Table κ α} {key : κ} (h : key ∉ table.keys) :
    table.get? key = none := by
  refine List.lookup_eq_none_iff.2 fun entry hentry => ?_
  have hne : key ≠ entry.1 := by
    rintro rfl
    exact h (List.mem_map_of_mem hentry)
  simpa using hne

theorem get?_erase_of_ne (table : Table κ α) {key key' : κ} (hne : key' ≠ key) :
    (table.erase key).get? key' = table.get? key' := by
  unfold get?
  induction table with
  | nil => rfl
  | cons entry rest ih =>
      obtain ⟨k, v⟩ := entry
      unfold erase
      by_cases h : (key == k) = true
      · obtain rfl := eq_of_beq h
        have hkey : (key' == key) = false := by simpa using hne
        rw [if_pos h, List.lookup_cons, hkey]
      · rw [if_neg h, List.lookup_cons, List.lookup_cons, ih]

end Table

namespace Fragment

/-- The second list has the fragments of the first one in another order, but those of one name in the
same. -/
structure Reordered (fragments others : List Fragment) : Prop where
  perm : fragments.Perm others
  sameOrder : ∀ fragment ∈ fragments,
    (fragments.filter fun other => other.header.name = fragment.header.name) =
      others.filter fun other => other.header.name = fragment.header.name

theorem Reordered.named_eq {fragments others : List Fragment} (h : Reordered fragments others)
    (name : Text) : Block.named fragments name = Block.named others name := by
  by_cases hname : ∃ fragment ∈ fragments, fragment.header.name = name
  · obtain ⟨fragment, hfragment, rfl⟩ := hname
    exact h.sameOrder fragment hfragment
  · have hnone : ∀ fragment ∈ fragments, fragment.header.name ≠ name :=
      fun fragment hfragment heq => hname ⟨fragment, hfragment, heq⟩
    have hnone' : ∀ fragment ∈ others, fragment.header.name ≠ name :=
      fun fragment hfragment => hnone fragment (h.perm.mem_iff.2 hfragment)
    unfold Block.named
    rw [List.filter_eq_nil_iff.2 (by simpa using hnone), List.filter_eq_nil_iff.2 (by simpa using hnone')]

theorem Reordered.named_blocksOnly {fragments others : List Fragment}
    (h : Reordered fragments others) (name : Text) :
    Block.named (blocksOnly fragments) name = Block.named (blocksOnly others) name := by
  have hcomm : ∀ l, Block.named (blocksOnly l) name = blocksOnly (Block.named l name) :=
    fun l => List.filter_comm _ _ l
  rw [hcomm, hcomm, h.named_eq]

end Fragment

namespace Block

variable {fragments others : List Fragment} {blocks blocks' : Table Text Block}

/-! ### Name by name -/

theorem mixed_iff_named :
    Mixed fragments ↔ ∃ name, ∃ fragment ∈ named fragments name, ∃ first,
      (named fragments name).head? = some first ∧
        fragment.header.language ≠ first.header.language := by
  simp only [head?_named]
  constructor
  · rintro ⟨fragment, hfragment, first, hfirst, hne⟩
    exact ⟨fragment.header.name, fragment, List.mem_filter.2 ⟨hfragment, by simp⟩, first, hfirst, hne⟩
  · rintro ⟨name, fragment, hnamed, first, hfirst, hne⟩
    obtain ⟨hfragment, hname⟩ := List.mem_filter.1 hnamed
    obtain rfl : fragment.header.name = name := by simpa using hname
    exact ⟨fragment, hfragment, first, hfirst, hne⟩

theorem mixed_congr (h : ∀ name, named fragments name = named others name) :
    Mixed fragments ↔ Mixed others := by
  simp only [mixed_iff_named, h]

theorem Grouped.get?_congr (h : ∀ name, named fragments name = named others name)
    (hblocks : Grouped fragments blocks) (hblocks' : Grouped others blocks') (name : Text) :
    blocks.get? name = blocks'.get? name := by
  rw [hblocks name, hblocks' name, h name]

theorem group_error_iff :
    (∃ fault, group fragments = .error fault) ↔ Mixed (Fragment.blocksOnly fragments) := by
  rcases group_cases fragments with ⟨blocks, hgroup, -, hmixed⟩ | ⟨fault, hgroup, -, hmixed⟩
  · simp [hgroup, hmixed]
  · simp [hgroup, hmixed]

theorem grouped_of_group (h : group fragments = .ok blocks) :
    Grouped (Fragment.blocksOnly fragments) blocks := by
  rcases group_cases fragments with ⟨blocks', hgroup, hgrouped, -⟩ | ⟨fault, hgroup, -⟩
  · cases h.symm.trans hgroup
    exact hgrouped
  · cases h.symm.trans hgroup

theorem get?_named (h : group fragments = .ok blocks) (name : Text) :
    (bodies blocks).named.get? name = if name = [] then none else (blocks.get? name).map body := by
  split
  · next hname =>
      rw [hname, bodies_eq_onePass h]
      exact Table.get?_eq_none_of_not_mem (nil_not_mem_onePass _)
  · next hname =>
      unfold bodies
      dsimp only
      rw [Table.get?_mapValues, Table.get?_erase_of_ne _ hname]

end Block

/-! ### Expansion looks blocks up by name -/

namespace Script

/-- Nothing has been injected and there is no hook. -/
structure Context.Unhooked (c : Context) : Prop where
  injected : c.injectedEntries = []
  hook : c.globals.get? hookName = none ∨ c.globals.get? hookName = some .none

/-- The lines of a body as values. -/
def asValues (lines : List Text) : List Value := lines.map .text

/-- The bodies of a document as they are handed to expansion. -/
def plain (bodies : Block.Bodies) : Assembly :=
  .plain (bodies.root.map asValues) (bodies.named.map fun entry => (.text entry.1, asValues entry.2))

theorem ends_adjust_unhooked {c : Context} (h : c.Unhooked) (bodies : Block.Bodies) :
    (adjust bodies).Ends c (.ok (plain bodies)) c := by
  unfold adjust
  refine (Run.ends_get c).bind ?_
  rw [h.injected]
  refine (Run.ends_pure _ c).bind ((Run.ends_get c).bind ?_)
  rcases h.hook with hhook | hhook
  · rw [hhook]
    exact Run.ends_pure _ c
  · rw [hhook]
    exact Run.ends_pure _ c

theorem get?_plain (named : Table Text (List Text)) (name : Text) :
    Table.get? (named.map fun entry => (Value.text entry.1, asValues entry.2)) (.text name) =
      (named.get? name).map asValues := by
  unfold Table.get?
  induction named with
  | nil => rfl
  | cons entry rest ih =>
      rw [List.map_cons, List.lookup_cons, List.lookup_cons]
      have hkey : (Value.text name == Value.text entry.1) = (name == entry.1) := by
        rw [Bool.eq_iff_iff, beq_iff_eq, beq_iff_eq, Value.text.injEq]
      rw [hkey]
      cases name == entry.1 with
      | true => rfl
      | false => exact ih

/-- Bodies that are the same under every name expand in the same run. -/
theorem expand_congr {bodies bodies' : Block.Bodies} (hroot : bodies.root = bodies'.root)
    (hnamed : ∀ name, bodies.named.get? name = bodies'.named.get? name) (settings : Settings)
    (stack : Nat) :
    Tangler.expand (engine settings) settings stack (plain bodies) =
      Tangler.expand (engine settings) settings stack (plain bodies') := by
  have hscope : (engine settings).scope (plain bodies) = (engine settings).scope (plain bodies') := by
    have hbody : (plain bodies).body? = (plain bodies').body? := by
      funext name
      simp only [plain, Assembly.body?, get?_plain, hnamed]
    unfold engine
    dsimp only
    rw [hbody]
  have hlines (c : Context) : (engine settings).root? c (plain bodies) =
      (engine settings).root? c (plain bodies') := by
    unfold plain
    rw [hroot]
    rfl
  unfold Tangler.expand
  simp only [hscope, hlines]

end Script

namespace Tangler

variable {ε ι α : Type} {settings : Settings} {stack : Nat}

/-- What comes of bodies is the expansion of what the hook makes of them. -/
theorem result_complete {engine : Engine ε ι α} {bodies : Block.Bodies} {assembly : α}
    {t : Tangler ε ι α} {c : ε} (hadjust : (engine.adjust bodies).Ends t.context (.ok assembly) c) :
    ((complete engine settings stack bodies).run t).result =
      ((expand engine settings stack assembly).run c).result := by
  have hadjusted : (adjust engine bodies).Ends t (.ok assembly) { t with context := c } :=
    ends_inContext hadjust
  rcases (expand engine settings stack assembly).ends_cases c with
    ⟨result, c', hexpand⟩ | ⟨fault, c', hexpand⟩
  · rw [hexpand.1]
    exact (hadjusted.bind (ends_finish (t := { t with context := c }) hexpand)).1
  · rw [hexpand.1]
    exact (hadjusted.bind (ends_finish_error (t := { t with context := c }) hexpand)).1

theorem result_complete_unhooked {t : Tangler Script.Context Value Script.Assembly}
    (h : t.context.Unhooked) (bodies : Block.Bodies) :
    ((complete (Script.engine settings) settings stack bodies).run t).result =
      ((expand (Script.engine settings) settings stack (Script.plain bodies)).run t.context).result := by
  refine result_complete (Script.ends_withRoomOf settings fun calls => ?_)
  have hunhooked : ({ t.context with calls } : Script.Context).Unhooked := ⟨h.injected, h.hook⟩
  exact Script.ends_adjust_unhooked hunhooked bodies

end Tangler

namespace Block

variable {fragments others : List Fragment}

/-- **Fragments of different names may change places.** Let fragments be put in another order in which those
of one name keep theirs. They can be grouped before if and only if they can be grouped after; the root is
the same, and so is the body of every name. Without injected blocks and without a hook, what tangling goes
on to make of them is the same too, lines or a fault. -/
theorem bodies_of_reordered (h : Fragment.Reordered fragments others) :
    ((∃ fault, group fragments = .error fault) ↔ ∃ fault, group others = .error fault) ∧
    ∀ blocks blocks', group fragments = .ok blocks → group others = .ok blocks' →
      (bodies blocks).root = (bodies blocks').root ∧
      (∀ name, (bodies blocks).named.get? name = (bodies blocks').named.get? name) ∧
      ∀ (settings : Settings) (stack : Nat) (t : Tangler Script.Context Value Script.Assembly),
        t.context.Unhooked →
        ((Tangler.complete (Script.engine settings) settings stack (bodies blocks)).run t).result =
          ((Tangler.complete (Script.engine settings) settings stack (bodies blocks')).run t).result := by
  have hnamed := h.named_blocksOnly
  refine ⟨?_, fun blocks blocks' hblocks hblocks' => ?_⟩
  · rw [group_error_iff, group_error_iff, mixed_congr hnamed]
  have hget := (grouped_of_group hblocks).get?_congr hnamed (grouped_of_group hblocks')
  have hroot : (bodies blocks).root = (bodies blocks').root := congrArg (Option.map body) (hget [])
  have hbody : ∀ name, (bodies blocks).named.get? name = (bodies blocks').named.get? name := by
    intro name
    rw [get?_named hblocks, get?_named hblocks', hget name]
  refine ⟨hroot, hbody, fun settings stack t ht => ?_⟩
  rw [Tangler.result_complete_unhooked ht, Tangler.result_complete_unhooked ht,
    Script.expand_congr hroot hbody]

/-- A block told in three parts, the second of which replaces the first, after or before the block that
refers to it. -/
theorem bodies_of_reordered_parts :
    let part (replacing : Bool) (name line : String) : Fragment :=
      { header := { role := .block replacing name.toList }, lines := [line.toList] }
    let fragments := [part false "b" "x\n", part false "" "⦅b⦆\n", part true "b" "y\n",
      part false "a" "⦅b⦆ z\n", part false "" "⦅a⦆\n", part false "b" "w\n"]
    let others := [part false "a" "⦅b⦆ z\n", part false "" "⦅b⦆\n", part false "" "⦅a⦆\n",
      part false "b" "x\n", part true "b" "y\n", part false "b" "w\n"]
    let t : Tangler Script.Context Value Script.Assembly :=
      { input := ⟨0, [['a']]⟩, context := Script.Context.fresh [] }
    let result := ["y\n", "w\n", "y\n", "w z"].map fun line => Value.text line.toList
    Fragment.Reordered fragments others ∧
    ∃ blocks blocks', group fragments = .ok blocks ∧ group others = .ok blocks' ∧
      (bodies blocks).named.keys = [['b'], ['a']] ∧ (bodies blocks').named.keys = [['a'], ['b']] ∧
      ((Tangler.complete (Script.engine {}) {} 9 (bodies blocks)).run t).result = .ok (some result) ∧
      ((Tangler.complete (Script.engine {}) {} 9 (bodies blocks')).run t).result =
        .ok (some result) := by
  intro part fragments others t result
  have hreordered : Fragment.Reordered fragments others := ⟨by decide +kernel, by decide +kernel⟩
  refine ⟨hreordered, _, _, rfl, rfl, rfl, rfl, ?_⟩
  have hresult : ((Tangler.complete (Script.engine {}) {} 9 ⟨some ["⦅b⦆\n".toList, "⦅a⦆".toList],
      [(['b'], ["y\n".toList, "w".toList]), (['a'], ["⦅b⦆ z".toList])]⟩).run t).result =
        .ok (some result) := by decide +kernel
  refine ⟨hresult, ?_⟩
  rw [← ((bodies_of_reordered hreordered).2 _ _ rfl rfl).2.2 {} 9 t ⟨rfl, .inl rfl⟩]
  exact hresult

end Block
end Literate
