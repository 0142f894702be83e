import Mathlib
import Literate.Proofs.FilterChains
import Literate.Proofs.Texts

/-! # The margins of a line

A line that is not blank stands between white space in one way only: as white space, a content that neither
starts nor ends with white space, and white space (`Parted.margins_eq`). So a line is parted into its margins
whenever three texts with these properties make it up, and to know the margins of a changed line it is enough
to see that the changed content is a content again.

A change of contents (`ContentEdit`) is one that makes contents of contents and can be undone. Doing two of
them one after the other to a line is doing both to its content at once (`onContent_onContent`). What a chain
of such filters does is therefore one change of contents (`exists_contentEdit`), and all that holds for one
filter holds for any number of them in any order. -/

namespace Literate

namespace Text

/-- A text of white space. -/
def Blank (t : Text) : Prop := ∀ c ∈ t, isBlank c = true

instance (t : Text) : Decidable (Blank t) := decidable_of_iff (t.all isBlank = true) List.all_eq_true

end Text

open Text

namespace Filter

variable {line before content after : Text} {f g : Text → Text}

/-! ### Parting a line -/

/-- A line that is made up of white space, a content and white space. -/
structure Parted (line before content after : Text) : Prop where
  whole : before ++ content ++ after = line
  blank_before : Blank before
  blank_after : Blank after
  /-- The content does not start with white space. -/
  first : ∀ c ∈ content.head?, isBlank c = false
  /-- The content does not end with white space. -/
  last : ∀ c ∈ content.getLast?, isBlank c = false

namespace Parted

theorem reverse (h : Parted line before content after) :
    Parted line.reverse after.reverse content.reverse before.reverse where
  whole := by rw [← h.whole, List.reverse_append, List.reverse_append, List.append_assoc]
  blank_before c hc := h.blank_after c (List.mem_reverse.1 hc)
  blank_after c hc := h.blank_before c (List.mem_reverse.1 hc)
  first := by rw [List.head?_reverse]; exact h.last
  last := by rw [List.getLast?_reverse]; exact h.first

theorem strip_eq (h : Parted line before content after) : strip line = content := by
  rw [← h.whole, strip_append h.blank_before h.blank_after, strip_eq_self h.first h.last]

theorem content_eq_nil_iff (h : Parted line before content after) : content = [] ↔ Blank line := by
  rw [← h.strip_eq]
  exact strip_eq_nil

/-- What follows the white space before a content starts with the content. -/
theorem head_rest (h : Parted line before content after) (hne : content ≠ []) :
    ∀ c ∈ (content ++ after).head?, isBlank c = false := by
  rw [List.head?_append_of_ne_nil _ hne]
  exact h.first

theorem takeWhile_eq (h : Parted line before content after) (hne : content ≠ []) :
    line.takeWhile isBlank = before := by
  rw [← h.whole, List.append_assoc]
  exact takeWhile_run h.blank_before (h.head_rest hne)

theorem stripStart_eq (h : Parted line before content after) (hne : content ≠ []) :
    stripStart line = content ++ after := by
  rw [← h.whole, List.append_assoc]
  exact dropWhile_run h.blank_before (h.head_rest hne)

theorem rtakeWhile_eq (h : Parted line before content after) (hne : content ≠ []) :
    line.rtakeWhile isBlank = after := by
  rw [List.rtakeWhile, h.reverse.takeWhile_eq (List.reverse_ne_nil_iff.2 hne), List.reverse_reverse]

theorem stripEnd_eq (h : Parted line before content after) (hne : content ≠ []) :
    stripEnd line = before ++ content := by
  have hstart : line.reverse.dropWhile isBlank = content.reverse ++ before.reverse :=
    h.reverse.stripStart_eq (List.reverse_ne_nil_iff.2 hne)
  rw [stripEnd, trimEnd, hstart, ← List.reverse_append, List.reverse_reverse]

theorem margins_eq (h : Parted line before content after) (hne : content ≠ []) :
    margins line = (before, content, after) := by
  have hafter : (line.reverse.takeWhile isBlank).reverse = after := h.rtakeWhile_eq hne
  rw [margins, h.strip_eq, if_neg (by simpa using hne), h.takeWhile_eq hne, hafter]

end Parted

theorem margins_of_blank (h : Blank line) : margins line = (line, [], []) := by
  rw [margins, strip_eq_nil.2 h]
  rfl

/-- The content of a line is what stripping leaves; the rest is cut off on either side of it. -/
theorem exists_parted (line : Text) : ∃ before after, Parted line before (strip line) after := by
  refine ⟨line.takeWhile isBlank, (stripStart line).rtakeWhile isBlank, ?_, ?_, ?_,
    eq_false_of_head?_strip, eq_false_of_getLast?_strip⟩
  · have hrest : strip line ++ (stripStart line).rtakeWhile isBlank = stripStart line :=
      List.rdropWhile_append_rtakeWhile ..
    rw [List.append_assoc, hrest]
    exact List.takeWhile_append_dropWhile
  · exact fun c hc => List.mem_takeWhile_imp hc
  · exact fun c hc => List.mem_rtakeWhile_imp hc

/-- A line is blank, or white space stands on either side of something. -/
theorem blank_or_parted (line : Text) :
    Blank line ∨ ∃ before content after, Parted line before content after ∧ content ≠ [] := by
  obtain ⟨before, after, h⟩ := exists_parted line
  by_cases hne : strip line = []
  · exact .inl (strip_eq_nil.1 hne)
  · exact .inr ⟨before, strip line, after, h, hne⟩

theorem parted_margins (line : Text) :
    Parted line (margins line).1 (margins line).2.1 (margins line).2.2 := by
  rcases blank_or_parted line with hblank | ⟨before, content, after, h, hne⟩
  · rw [margins_of_blank hblank]
    exact ⟨by simp, hblank, by simp [Blank], by simp, by simp⟩
  · rwa [h.margins_eq hne]

/-- The margins of a line are as long as what stripping takes away on each side. -/
theorem margins_eq_cuts (hline : ¬ Blank line) :
    margins line = (line.take (line.length - (stripStart line).length), strip line,
      line.drop (stripEnd line).length) := by
  obtain hblank | ⟨before, content, after, h, hne⟩ := blank_or_parted line
  · exact absurd hblank hline
  have hstart : line.length - (stripStart line).length = before.length := by
    rw [h.stripStart_eq hne, ← h.whole, List.append_assoc, List.length_append, Nat.add_sub_cancel]
  have htake : line.take before.length = before := by
    rw [← h.whole, List.append_assoc, List.take_left]
  have hdrop : line.drop (before ++ content).length = after := by
    rw [← h.whole, List.drop_left]
  rw [h.margins_eq hne, h.strip_eq, hstart, htake, h.stripEnd_eq hne, hdrop]

/-! ### Changing contents -/

/-- A text that can stand between margins. -/
structure IsContent (t : Text) : Prop where
  ne_nil : t ≠ []
  first : ∀ c ∈ t.head?, isBlank c = false
  last : ∀ c ∈ t.getLast?, isBlank c = false

/-- A change that makes contents of contents and can be undone. -/
structure ContentEdit (f : Text → Text) : Prop where
  isContent : ∀ {t}, IsContent t → IsContent (f t)
  injective : Function.Injective f

theorem contentEdit_id : ContentEdit id := ⟨id, Function.injective_id⟩

theorem ContentEdit.comp (hg : ContentEdit g) (hf : ContentEdit f) : ContentEdit (g ∘ f) :=
  ⟨fun h => hg.isContent (hf.isContent h), hg.injective.comp hf.injective⟩

theorem contentEdit_quotes : ContentEdit fun t => '"' :: t ++ ['"'] where
  isContent {t} _ := by
    have hquote : isBlank '"' = false := rfl
    refine ⟨by simp, by simpa using hquote, ?_⟩
    rw [List.getLast?_concat]
    simpa using hquote
  injective t t' h := by simpa using h

theorem contentEdit_comma : ContentEdit fun t => t ++ [','] where
  isContent {t} h := by
    have hcomma : isBlank ',' = false := rfl
    refine ⟨by simp, ?_, by simpa using hcomma⟩
    rw [List.head?_append_of_ne_nil _ h.ne_nil]
    exact h.first
  injective t t' h := by simpa using h

namespace Parted

theorem onContent_eq (h : Parted line before content after) (hne : content ≠ []) (f : Text → Text) :
    onContent f line = before ++ f content ++ after := by
  rw [onContent, h.margins_eq hne]
  cases content with
  | nil => exact absurd rfl hne
  | cons c cs => rfl

theorem isContent (h : Parted line before content after) (hne : content ≠ []) : IsContent content :=
  ⟨hne, h.first, h.last⟩

theorem onContent (h : Parted line before content after) (hne : content ≠ []) (hf : ContentEdit f) :
    Parted (Filter.onContent f line) before (f content) after where
  whole := (h.onContent_eq hne f).symm
  blank_before := h.blank_before
  blank_after := h.blank_after
  first := (hf.isContent (h.isContent hne)).first
  last := (hf.isContent (h.isContent hne)).last

theorem edit_ne_nil (h : Parted line before content after) (hne : content ≠ []) (hf : ContentEdit f) :
    f content ≠ [] := (hf.isContent (h.isContent hne)).ne_nil

end Parted

theorem onContent_of_blank (h : Blank line) (f : Text → Text) : onContent f line = line := by
  rw [onContent, margins_of_blank h]

theorem onContent_id (line : Text) : onContent id line = line := by
  rcases blank_or_parted line with hblank | ⟨before, content, after, h, hne⟩
  · exact onContent_of_blank hblank id
  · rw [h.onContent_eq hne]
    exact h.whole

theorem onContent_onContent (hf : ContentEdit f) (g : Text → Text) (line : Text) :
    onContent g (onContent f line) = onContent (g ∘ f) line := by
  rcases blank_or_parted line with hblank | ⟨before, content, after, h, hne⟩
  · simp only [onContent_of_blank hblank]
  · rw [(h.onContent hne hf).onContent_eq (h.edit_ne_nil hne hf), h.onContent_eq hne]
    rfl

theorem margins_onContent (hf : ContentEdit f) (hline : ¬ Blank line) :
    margins (onContent f line) = ((margins line).1, f (margins line).2.1, (margins line).2.2) := by
  have h := parted_margins line
  have hne : (margins line).2.1 ≠ [] := mt h.content_eq_nil_iff.1 hline
  exact (h.onContent hne hf).margins_eq (h.edit_ne_nil hne hf)

theorem blank_onContent_iff (hf : ContentEdit f) : Blank (onContent f line) ↔ Blank line := by
  rcases blank_or_parted line with hblank | ⟨before, content, after, h, hne⟩
  · rw [onContent_of_blank hblank]
  · rw [← (h.onContent hne hf).content_eq_nil_iff, ← h.content_eq_nil_iff]
    exact iff_of_false (h.edit_ne_nil hne hf) hne

/-- A line can be told from what a change of its content makes of it. -/
theorem onContent_injective (hf : ContentEdit f) : Function.Injective (onContent f) := by
  intro line line' heq
  have hiff : Blank line ↔ Blank line' := by
    rw [← blank_onContent_iff hf, heq, blank_onContent_iff hf]
  by_cases hblank : Blank line
  · rwa [onContent_of_blank hblank, onContent_of_blank (hiff.1 hblank)] at heq
  · -- the parts of the changed lines are the same, and so those of the lines
    have hparts := margins_onContent hf hblank
    rw [heq, margins_onContent hf (mt hiff.2 hblank), Prod.mk.injEq, Prod.mk.injEq] at hparts
    obtain ⟨hbefore, hcontent, hafter⟩ := hparts
    rw [← (parted_margins line).whole, ← (parted_margins line').whole, hbefore, hf.injective hcontent,
      hafter]

/-! ### Indentation and terminators -/

/-- Two lines with the same white space at their ends, and so with the same indentation and terminator. -/
structure SameEdges (line line' : Text) : Prop where
  before : line'.takeWhile isBlank = line.takeWhile isBlank
  after : line'.rtakeWhile isBlank = line.rtakeWhile isBlank
  indent : line'.takeWhile isIndent = line.takeWhile isIndent
  /-- What ends a line of a file. -/
  newline : line'.rtakeWhile isNewline = line.rtakeWhile isNewline
  /-- What ends a line of a text in memory. -/
  boundary : line'.rtakeWhile isLineBoundary = line.rtakeWhile isLineBoundary

theorem SameEdges.of_runs {line' : Text} (before : line'.takeWhile isBlank = line.takeWhile isBlank)
    (after : line'.rtakeWhile isBlank = line.rtakeWhile isBlank) : SameEdges line line' := by
  have hfront : ∀ p : Char → Bool, (∀ {c}, p c = true → isBlank c = true) →
      line'.takeWhile p = line.takeWhile p := by
    intro p hp
    rw [← takeWhile_takeWhile_of_imp hp, before, takeWhile_takeWhile_of_imp hp]
  have hback : ∀ p : Char → Bool, (∀ {c}, p c = true → isBlank c = true) →
      line'.rtakeWhile p = line.rtakeWhile p := by
    intro p hp
    have hrun : line'.reverse.takeWhile isBlank = line.reverse.takeWhile isBlank :=
      List.reverse_injective after
    rw [List.rtakeWhile, List.rtakeWhile, ← takeWhile_takeWhile_of_imp hp, hrun,
      takeWhile_takeWhile_of_imp hp]
  exact ⟨before, after, hfront _ isBlank_of_isIndent, hback _ isBlank_of_isNewline,
    hback _ isBlank_of_isLineBoundary⟩

theorem sameEdges_onContent (hf : ContentEdit f) (line : Text) : SameEdges line (onContent f line) := by
  rcases blank_or_parted line with hblank | ⟨before, content, after, h, hne⟩
  · rw [onContent_of_blank hblank]
    exact .of_runs rfl rfl
  · have h' := h.onContent hne hf
    have hne' := h.edit_ne_nil hne hf
    exact .of_runs ((h'.takeWhile_eq hne').trans (h.takeWhile_eq hne).symm)
      ((h'.rtakeWhile_eq hne').trans (h.rtakeWhile_eq hne).symm)

/-! ### Chains -/

/-- The filters that change contents: their names, and what they do to a line. -/
def contentFilters : List (Text × (Text → Text)) :=
  [("double_quote".toList, quoteContent), ("add_comma".toList, addComma)]

/-- Do to a line what filters do, one after the other. -/
def inTurn (filters : List (Text × (Text → Text))) (line : Text) : Text :=
  filters.foldl (fun line filter => filter.2 line) line

variable {filters : List (Text × (Text → Text))}

theorem exists_edit_of_mem {filter : Text × (Text → Text)} (h : filter ∈ contentFilters) :
    ∃ f, ContentEdit f ∧ filter.2 = onContent f := by
  simp only [contentFilters, List.mem_cons, List.not_mem_nil, or_false] at h
  rcases h with rfl | rfl
  · exact ⟨_, contentEdit_quotes, rfl⟩
  · exact ⟨_, contentEdit_comma, rfl⟩

/-- Any number of such filters, in any order, makes one change of contents. -/
theorem exists_contentEdit (h : filters ⊆ contentFilters) :
    ∃ f, ContentEdit f ∧ inTurn filters = onContent f := by
  induction filters with
  | nil => exact ⟨id, contentEdit_id, funext fun line => (onContent_id line).symm⟩
  | cons filter filters ih =>
      rw [List.cons_subset] at h
      obtain ⟨f, hf, hfilter⟩ := exists_edit_of_mem h.1
      obtain ⟨g, hg, hfilters⟩ := ih h.2
      refine ⟨g ∘ f, hg.comp hf, funext fun line => ?_⟩
      calc inTurn (filter :: filters) line = inTurn filters (filter.2 line) := rfl
        _ = onContent g (onContent f line) := by rw [hfilters, hfilter]
        _ = onContent (g ∘ f) line := onContent_onContent hf g line

/-- In a fresh context the names lead to filters that do this to every line. -/
theorem exists_function_of_mem (unit : Text) {filter : Text × (Text → Text)} (h : filter ∈ contentFilters) :
    ∃ g, (Script.Context.fresh unit).registry.function? filter.1 = some g ∧
      ∀ lines : List Text, g (lines.map .text) = .ok ((lines.map filter.2).map .text) := by
  simp only [contentFilters, List.mem_cons, List.not_mem_nil, or_false] at h
  rcases h with rfl | rfl
  · exact ⟨_, rfl, fun lines => congrArg (Except.mapError Fault.ofFailure)
      (Script.Context.onValues_texts .quoteContents lines)⟩
  · exact ⟨_, rfl, fun lines => congrArg (Except.mapError Fault.ofFailure)
      (Script.Context.onValues_texts .addCommas lines)⟩

theorem knows_contentFilters (unit : Text) (h : filters ⊆ contentFilters) :
    (Script.Context.fresh unit).registry.Knows (filters.map Prod.fst) := by
  intro name hname
  obtain ⟨filter, hfilter, rfl⟩ := List.mem_map.1 hname
  obtain ⟨g, hg, -⟩ := exists_function_of_mem unit (h hfilter)
  exact Option.isSome_iff_exists.2 ⟨g, hg⟩

theorem chain_contentFilters (unit : Text) (h : filters ⊆ contentFilters) (lines : List Text) :
    (Script.Context.fresh unit).registry.chain (filters.map Prod.fst) (lines.map .text) =
      .ok ((lines.map (inTurn filters)).map .text) := by
  induction filters generalizing lines with
  | nil =>
      rw [show inTurn [] = id from rfl, List.map_id]
      rfl
  | cons filter filters ih =>
      rw [List.cons_subset] at h
      obtain ⟨g, hg, hlines⟩ := exists_function_of_mem unit h.1
      have hturn : lines.map (inTurn (filter :: filters)) = (lines.map filter.2).map (inTurn filters) := by
        rw [List.map_map]
        rfl
      rw [List.map_cons, Registry.chain_cons hg (knows_contentFilters unit h.2), hlines, hturn]
      exact ih h.2 (lines.map filter.2)

/-- **Quoting and adding commas touch the content of a line only.** A line is made up of white space, a
content without white space at its ends, and white space, and there is a content unless the line is blank.
Blank lines are left alone. Of any other line the content alone is put in quotes, or gets a comma behind it.
So filters of these two kinds, any number of them in any order, lead from different lines to different lines
and keep the indentation and the terminator of each. -/
theorem filters_touch_contents_only :
    (∀ line, Parted line (margins line).1 (margins line).2.1 (margins line).2.2 ∧
      ((margins line).2.1 = [] ↔ Blank line) ∧
      (¬ Blank line → margins line = (line.take (line.length - (stripStart line).length), strip line,
        line.drop (stripEnd line).length))) ∧
    (∀ line, Blank line → quoteContent line = line ∧ addComma line = line) ∧
    (∀ line before content after, ¬ Blank line → margins line = (before, content, after) →
      margins (quoteContent line) = (before, '"' :: content ++ ['"'], after) ∧
      margins (addComma line) = (before, content ++ [','], after)) ∧
    Function.Injective quoteContent ∧ Function.Injective addComma ∧
    ∀ filters, filters ⊆ contentFilters →
      Function.Injective (inTurn filters) ∧ (∀ line, SameEdges line (inTurn filters line)) ∧
      (∀ line, Blank line → inTurn filters line = line) ∧
      ∀ (unit : Text) (lines : List Text),
        ((chain Script.findFilter (filters.map Prod.fst) (lines.map .text)).run
          (Script.Context.fresh unit)).result = .ok ((lines.map (inTurn filters)).map .text) := by
  refine ⟨?_, ?_, ?_, onContent_injective contentEdit_quotes, onContent_injective contentEdit_comma, ?_⟩
  · exact fun line => ⟨parted_margins line, (parted_margins line).content_eq_nil_iff, margins_eq_cuts⟩
  · exact fun line h => ⟨onContent_of_blank h _, onContent_of_blank h _⟩
  · intro line before content after hline hparts
    have hquoted := margins_onContent contentEdit_quotes hline
    have hcomma := margins_onContent contentEdit_comma hline
    rw [hparts] at hquoted hcomma
    exact ⟨hquoted, hcomma⟩
  · intro filters h
    obtain ⟨f, hf, hturn⟩ := exists_contentEdit h
    rw [hturn]
    refine ⟨onContent_injective hf, sameEdges_onContent hf, fun line hblank => onContent_of_blank hblank f, ?_⟩
    intro unit lines
    have hpure := Script.filters_pureOn (Script.Context.fresh_builtinFilters unit).plain
    rw [← hturn, ← chain_contentFilters unit h lines]
    exact (hpure.chain _ _ _ rfl).1

/-- A line with white space inside its content and other white space than spaces around it, and a blank
line. -/
theorem filters_touch_contents_only_mixed :
    let line := "\t \u00A0a, b \r\n".toList
    let blank := " \u2028\n".toList
    let names := ["add_comma".toList, "double_quote".toList, "add_comma".toList]
    (¬ Blank line ∧ margins line = ("\t \u00A0".toList, "a, b".toList, " \r\n".toList)) ∧
    margins (quoteContent line) = ("\t \u00A0".toList, "\"a, b\"".toList, " \r\n".toList) ∧
    margins (addComma line) = ("\t \u00A0".toList, "a, b,".toList, " \r\n".toList) ∧
    (Blank blank ∧ quoteContent blank = blank ∧ addComma blank = blank) ∧
    ((chain Script.findFilter names [.text line, .text blank]).run (Script.Context.fresh [' '])).result =
      .ok [.text "\t \u00A0\"a, b,\", \r\n".toList, .text blank] := by
  intro line blank names
  obtain ⟨-, hblanks, hparts, -, -, hchain⟩ := filters_touch_contents_only
  have hline : ¬ Blank line := by decide
  have hmargins : margins line = ("\t \u00A0".toList, "a, b".toList, " \r\n".toList) := by decide
  have hblank : Blank blank := by decide
  obtain ⟨hquoted, hcomma⟩ := hparts line _ _ _ hline hmargins
  obtain ⟨-, -, -, hrun⟩ := hchain [("add_comma".toList, addComma), ("double_quote".toList, quoteContent),
    ("add_comma".toList, addComma)] (by simp [contentFilters])
  refine ⟨⟨hline, hmargins⟩, hquoted, hcomma, ⟨hblank, hblanks blank hblank⟩, ?_⟩
  have hlines : [line, blank].map (inTurn [("add_comma".toList, addComma), ("double_quote".toList, quoteContent),
      ("add_comma".toList, addComma)]) = ["\t \u00A0\"a, b,\", \r\n".toList, blank] := by decide
  have hresult := hrun [' '] [line, blank]
  rw [hlines] at hresult
  exact hresult

end Filter
end Literate
