import Mathlib
import Literate.Proofs.FileTrees
import Literate.Proofs.LineBoundaries

/-! # Splitting into lines and putting together again

Lines are split at a class of characters, where a carriage return and a line feed after it count as one. What
comes out is told by four properties (`splitLines_eq_iff`): put together the lines are the text, none is
empty, each holds a terminator at its end only, and each is parted from the next. So the lines of a file and
those of a text in memory differ only where a text holds a character that ends lines in memory alone
(`splitLines_congr`), and lines that end in a line feed are read back as they were written, whether a carriage
return stands before it or not (`AreWritten.splitLines_flatten`). -/

namespace Literate

namespace Text

variable {ends ends' : Char → Bool} {t : Text} {lines : List Text}

/-! ### One line -/

/-- A terminator stands at the end of the text only, if there is one: a character that ends a line, or a
carriage return and a line feed. -/
def IsOneLine (ends : Char → Bool) (t : Text) : Prop :=
  ∃ body ending, t = body ++ ending ∧ (∀ c ∈ body, ends c = false) ∧
    (ending = [] ∨ (∃ c, ends c = true ∧ ending = [c]) ∨ ending = ['\r', '\n'])

theorem IsOneLine.cons {c : Char} (h : IsOneLine ends t) (hc : ends c = false) :
    IsOneLine ends (c :: t) := by
  obtain ⟨body, ending, rfl, hbody, hending⟩ := h
  exact ⟨c :: body, ending, rfl, List.forall_mem_cons.2 ⟨hc, hbody⟩, hending⟩

theorem IsOneLine.eq_of_head? (h : IsOneLine ends t) (hfeed : ends '\n' = true)
    (hhead : t.head? = some '\n') : t = ['\n'] := by
  obtain ⟨body, ending, rfl, hbody, hending⟩ := h
  cases body with
  | cons c body =>
      obtain rfl : c = '\n' := by simpa using hhead
      rw [hbody '\n' List.mem_cons_self] at hfeed
      cases hfeed
  | nil =>
      rcases hending with rfl | ⟨c, -, rfl⟩ | rfl
      · cases hhead
      · obtain rfl : c = '\n' := by simpa using hhead
        rfl
      · cases hhead

theorem Cut.isOneLine (hfeed : ends '\n' = true) (h : Cut ends t lines) :
    ∀ line ∈ lines, IsOneLine ends line := by
  induction h with
  | nil => simp
  | last c h =>
      have hc : ends c = false := by simpa [breaks] using h
      refine List.forall_mem_singleton.2 ⟨[c], [], rfl, ?_, .inl rfl⟩
      simpa using hc
  | stop c h rest ih =>
      have hc : ends c = true := (Bool.and_eq_true_iff.1 h).1
      exact List.forall_mem_cons.2 ⟨⟨[], [c], rfl, by simp, .inr (.inl ⟨c, hc, rfl⟩)⟩, ih⟩
  | @push t line lines c h rest ih =>
      rw [List.forall_mem_cons] at ih ⊢
      refine ⟨?_, ih.2⟩
      cases hc : ends c with
      | false => exact ih.1.cons hc
      | true =>
          obtain ⟨rfl, hnext⟩ : c = '\r' ∧ t.head? = some '\n' := by simpa [breaks, hc] using h
          rw [ih.1.eq_of_head? hfeed (rest.head?_eq.trans hnext)]
          exact ⟨[], ['\r', '\n'], rfl, by simp, .inr (.inr rfl)⟩

theorem IsOneLine.splitLines (h : IsOneLine ends t) (hne : t ≠ []) : splitLines ends t = [t] := by
  obtain ⟨body, ending, rfl, hbody, hending⟩ := h
  induction body with
  | nil =>
      rcases hending with rfl | ⟨c, hc, rfl⟩ | rfl
      · exact absurd rfl hne
      · simp [Text.splitLines, pushFront]
      · simp [Text.splitLines, pushFront]
  | cons c body ih =>
      rw [List.forall_mem_cons] at hbody
      have hc : breaks ends c (body ++ ending) = false := by simp [breaks, hbody.1]
      rw [List.cons_append, splitLines_push hc]
      by_cases hrest : body ++ ending = []
      · rw [hrest]
        rfl
      · rw [ih hrest hbody.2]
        rfl

/-! ### All lines -/

theorem splitLines_eq_iff (hfeed : ends '\n' = true) :
    splitLines ends t = lines ↔ lines.flatten = t ∧ (∀ line ∈ lines, line ≠ []) ∧
      (∀ line ∈ lines, IsOneLine ends line) ∧ lines.IsChain (Parts ends) := by
  constructor
  · rintro rfl
    have hcut := cut_splitLines ends t
    exact ⟨hcut.flatten_eq, hcut.ne_nil, hcut.isOneLine hfeed, hcut.isChain⟩
  · rintro ⟨rfl, hne, hone, hparts⟩
    exact (splitLines_flatten_iff fun line hline => (hone line hline).splitLines (hne line hline)).2 hparts

theorem splitLines_congr (h : ∀ c ∈ t, ends c = ends' c) : splitLines ends t = splitLines ends' t := by
  induction t with
  | nil => rfl
  | cons c t ih =>
      rw [List.forall_mem_cons] at h
      rw [splitLines, splitLines, h.1, ih h.2]

/-- The characters that end a line of a text in memory, but no line of a file. -/
def memoryOnly : List Nat := [0x0B, 0x0C, 0x1C, 0x1D, 0x1E, 0x85, 0x2028, 0x2029]

theorem isLineBoundary_eq {c : Char} (h : c.toNat ∉ memoryOnly) : isLineBoundary c = isNewline c := by
  have hfeed : c = '\n' ↔ c.toNat = 0x0A := Char.toNat_inj.symm
  have hreturn : c = '\r' ↔ c.toNat = 0x0D := Char.toNat_inj.symm
  simp only [memoryOnly, List.mem_cons, List.not_mem_nil, or_false, not_or] at h
  rw [Bool.eq_iff_iff]
  simp only [isLineBoundary, isNewline, Bool.or_eq_true, Bool.and_eq_true, decide_eq_true_eq, beq_iff_eq,
    hfeed, hreturn]
  omega

/-! ### Lines that are written -/

/-- A line that ends in a line feed, with a carriage return before it or without, and holds neither
otherwise. -/
def IsWritten (line : Text) : Prop :=
  ∃ body, (∀ c ∈ body, isNewline c = false) ∧ (line = body ++ ['\n'] ∨ line = body ++ ['\r', '\n'])

/-- Lines that end in a line feed, but for the last one, which may lack it. -/
def AreWritten (lines : List Text) : Prop :=
  (∀ line ∈ lines.dropLast, IsWritten line) ∧
    ∀ line, lines.getLast? = some line → IsWritten line ∨ line ≠ [] ∧ ∀ c ∈ line, isNewline c = false

namespace IsWritten

variable {line : Text}

theorem ne_nil (h : IsWritten line) : line ≠ [] := by
  obtain ⟨body, -, rfl | rfl⟩ := h <;> simp

theorem isOneLine (h : IsWritten line) : IsOneLine isNewline line := by
  obtain ⟨body, hbody, rfl | rfl⟩ := h
  · exact ⟨body, ['\n'], rfl, hbody, .inr (.inl ⟨'\n', rfl, rfl⟩)⟩
  · exact ⟨body, ['\r', '\n'], rfl, hbody, .inr (.inr rfl)⟩

theorem parts (h : IsWritten line) (next : Text) : Parts isNewline line next := by
  have hlast : line.getLast? = some '\n' := by
    obtain ⟨body, -, rfl | rfl⟩ := h <;> simp
  unfold Parts
  rw [hlast]
  rfl

end IsWritten

namespace AreWritten

theorem forall_mem (h : AreWritten lines) : ∀ line ∈ lines, line ≠ [] ∧ IsOneLine isNewline line := by
  intro line hline
  have hne := List.ne_nil_of_mem hline
  rw [← List.dropLast_append_getLast hne, List.mem_append, List.mem_singleton] at hline
  rcases hline with hline | rfl
  · exact ⟨(h.1 line hline).ne_nil, (h.1 line hline).isOneLine⟩
  · rcases h.2 _ (List.getLast?_eq_some_getLast hne) with hwritten | ⟨hnonempty, hopen⟩
    · exact ⟨hwritten.ne_nil, hwritten.isOneLine⟩
    · exact ⟨hnonempty, _, [], (List.append_nil _).symm, hopen, .inl rfl⟩

theorem isChain : ∀ {lines : List Text}, (∀ line ∈ lines.dropLast, IsWritten line) →
    lines.IsChain (Parts isNewline)
  | [], _ => .nil
  | [_], _ => .singleton _
  | line :: next :: lines, h => by
      rw [List.dropLast_cons_cons, List.forall_mem_cons] at h
      exact List.isChain_cons_cons.2 ⟨h.1.parts next, isChain h.2⟩

/-- Written one after the other, the lines can be told apart again. -/
theorem splitLines_flatten (h : AreWritten lines) : splitLines isNewline lines.flatten = lines :=
  (splitLines_eq_iff rfl).2 ⟨rfl, fun line hline => (h.forall_mem line hline).1,
    fun line hline => (h.forall_mem line hline).2, isChain h.1⟩

end AreWritten

end Text

open Text Run Include

/-! ### Numbered lines -/

/-- Numbered lines that make up a text. -/
structure Lossless (ends : Char → Bool) (text : Text) (lines : List Line) : Prop where
  /-- No character is lost. -/
  whole : (lines.map Line.text).flatten = text
  ne_nil : ∀ line ∈ lines, line.text ≠ []
  /-- A terminator stands at the end of a line only. -/
  isOneLine : ∀ line ∈ lines, IsOneLine ends line.text
  /-- Each line but the last has a terminator. -/
  parted : (lines.map Line.text).IsChain (Parts ends)
  number_eq : ∀ (index : Nat) (line : Line), lines[index]? = some line → line.number = index + 1

theorem lossless_numbered {ends : Char → Bool} (hfeed : ends '\n' = true) (source : Option Path)
    (text : Text) : Lossless ends text (Line.numbered source 1 (splitLines ends text)) := by
  obtain ⟨hwhole, hne, hone, hparted⟩ := (splitLines_eq_iff (t := text) hfeed).1 rfl
  have htexts := Line.map_text_numbered source 1 (splitLines ends text)
  have hmem : ∀ line ∈ Line.numbered source 1 (splitLines ends text),
      line.text ∈ splitLines ends text := by
    intro line hline
    rw [← htexts]
    exact List.mem_map_of_mem hline
  refine ⟨htexts.symm ▸ hwhole, fun line hline => hne _ (hmem line hline),
    fun line hline => hone _ (hmem line hline), htexts.symm ▸ hparted, fun index line hline => ?_⟩
  rw [Line.getElem?_numbered] at hline
  obtain ⟨t, -, rfl⟩ := Option.map_eq_some_iff.1 hline
  show ((1 + index : Nat) : Int) = index + 1
  omega

/-- What a line says, and where it stands in its source. -/
def Line.entry (line : Line) : Text × Int := (line.text, line.number)

theorem map_entry_numbered (source source' : Option Path) : ∀ (first : Nat) (texts : List Text),
    (Line.numbered source first texts).map Line.entry =
      (Line.numbered source' first texts).map Line.entry
  | _, [] => rfl
  | first, text :: texts =>
      congrArg ((text, (first : Int)) :: ·) (map_entry_numbered source source' (first + 1) texts)

/-- **Splitting loses nothing, and reading undoes writing.** The lines of a text in memory make up the text,
and so do the lines of a file that holds it. The two are the same unless the text holds a character that
ends lines in memory only. Lines that end in a line feed, but for the last one, can be written to every path
that leads to no directory, and are then read back from there as they were. -/
theorem lines_whole_and_read_back :
    (∀ (source : Option Path) (text : Text), Lossless isLineBoundary text (Line.ofText source text)) ∧
    (∀ (tree : FileTree) (path : Path) (text : Text), tree.read path = .ok text →
      ∃ lines, readLines tree path = .ok lines ∧ Lossless isNewline text lines ∧
        ((∀ c ∈ text, c.toNat ∉ memoryOnly) → ∀ source : Option Path,
          lines.map Line.entry = (Line.ofText source text).map Line.entry)) ∧
    ∀ (tree : FileTree) (path : Path) (lines : List Text), AreWritten lines →
      (((writeLines path lines).run tree).result = .ok () ↔
        ∃ place, tree.locate path = .ok place ∧ tree.node? place ≠ some .directory) ∧
      (((writeLines path lines).run tree).result = .ok () →
        ∃ read, readLines ((writeLines path lines).run tree).state path = .ok read ∧
          read.map Line.text = lines) := by
  refine ⟨lossless_numbered rfl, fun tree path text hread => ?_, fun tree path lines hlines => ⟨?_, ?_⟩⟩
  · refine ⟨_, readLines_of_read hread, lossless_numbered rfl (some path) text, fun hplain source => ?_⟩
    have hsplit : splitLines isLineBoundary text = splitLines isNewline text :=
      splitLines_congr fun c hc => isLineBoundary_eq (hplain c hc)
    rw [Line.ofText, hsplit]
    exact map_entry_numbered (some path) source 1 _
  · constructor
    · intro h
      have hwrite := ends_writeLines_ok_iff.1 ⟨h, rfl⟩
      obtain ⟨place, hlocate, hnode, -⟩ := FileTree.write_eq_ok.1 hwrite
      exact ⟨place, hlocate, hnode⟩
    · rintro ⟨place, hlocate, hnode⟩
      exact (ends_writeLines_ok_iff.2 (FileTree.write_eq_ok.2 ⟨place, hlocate, hnode, rfl⟩)).1
  · intro h
    have hread := FileTree.read_of_write (ends_writeLines_ok_iff.1 ⟨h, rfl⟩)
    refine ⟨_, readLines_of_read hread, ?_⟩
    rw [map_text_ofFile, hlines.splitLines_flatten]

/-- A file with all three terminators and none at its end, and lines of which one holds a character that
ends lines in memory only. -/
theorem lines_whole_and_read_back_mixed :
    let path : Path := ⟨0, [['f']]⟩
    let text := "a\r\n\rb\nc".toList
    let tree : FileTree := ⟨[({ names := [['f']] }, .file (some text))]⟩
    let lines := ["a\r\n".toList, ['\n'], "b\u2028c".toList]
    (tree.read path = .ok text ∧ ∀ c ∈ text, c.toNat ∉ memoryOnly) ∧
    (∃ read, readLines tree path = .ok read ∧ Lossless isNewline text read ∧
      read.map Line.entry = (Line.ofText none text).map Line.entry) ∧
    AreWritten lines ∧ ((writeLines path lines).run tree).result = .ok () ∧
    ∃ read, readLines ((writeLines path lines).run tree).state path = .ok read ∧
      read.map Line.text = lines := by
  intro path text tree lines
  have hread : tree.read path = .ok text := by decide +kernel
  have hplain : ∀ c ∈ text, c.toNat ∉ memoryOnly := by simp [text, memoryOnly]
  have hlines : AreWritten lines := by
    have hfirst : IsWritten "a\r\n".toList := ⟨['a'], by simp [isNewline], .inr rfl⟩
    have hsecond : IsWritten ['\n'] := ⟨[], by simp, .inl rfl⟩
    have hlast : ∀ c ∈ "b\u2028c".toList, isNewline c = false := by simp [isNewline]
    refine ⟨List.forall_mem_cons.2 ⟨hfirst, List.forall_mem_singleton.2 hsecond⟩, ?_⟩
    rintro line hline
    obtain rfl := Option.some.inj hline
    exact .inr ⟨by simp, hlast⟩
  obtain ⟨-, hfile, hback⟩ := lines_whole_and_read_back
  obtain ⟨read, hlinesOf, hlossless, hsame⟩ := hfile tree path text hread
  obtain ⟨hwritten, hagain⟩ := hback tree path lines hlines
  have hresult : ((writeLines path lines).run tree).result = .ok () :=
    hwritten.2 ⟨{ names := [['f']] }, by decide +kernel, by decide +kernel⟩
  exact ⟨⟨hread, hplain⟩, ⟨read, hlinesOf, hlossless, hsame hplain none⟩, hlines, hresult,
    hagain hresult⟩

end Literate
