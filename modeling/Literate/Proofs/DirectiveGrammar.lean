import Mathlib
import Literate.Directive
import Literate.Proofs.Texts

/-! # The grammar of directives

A line is read as a directive if and only if, without its end, it is an exclamation mark, white space, a
keyword, and an argument that fits the keyword (`parse?_eq_some_iff`). The line has one such split
(`Splits.unique`). What an argument must be is said for each keyword by `Argument`.

The argument of an include is a link, in which brackets and parentheses may stand anywhere. Its last
divider is the one that counts, so a link is read back if its path holds no divider
(`link?_eq_some_iff`, `parse?_include_iff`). -/

namespace Literate

namespace Directive

open Text

/-! ### Links -/

/-- A link as it is written. -/
def link (description path : Text) : Text :=
  '[' :: (description ++ ("](".toList ++ (path ++ [')'])))

theorem getLast?_link (description path : Text) : (link description path).getLast? = some ')' := by
  have hconcat : link description path = '[' :: (description ++ ("](".toList ++ path)) ++ [')'] := by
    simp [link]
  rw [hconcat, List.getLast?_concat]

theorem strip_link (description path : Text) :
    strip (link description path) = link description path := by
  refine strip_eq_self (by rintro c ⟨⟩; rfl) ?_
  intro c hc
  rw [getLast?_link] at hc
  obtain rfl : ')' = c := Option.some.inj hc
  rfl

/-- Neither what divides a link nor what ends it makes another divider with the path. -/
theorem divider_infix_iff {path : Text} :
    "](".toList <:+: ("](".toList ++ (path ++ [')'])).tail ↔ "](".toList <:+: path := by
  show "](".toList <:+: '(' :: (path ++ [')']) ↔ "](".toList <:+: path
  have hstart : ¬ "](".toList <+: '(' :: (path ++ [')']) := by
    rintro ⟨rest, hrest⟩
    cases hrest
  have hend : ¬ "](".toList <:+ path ++ [')'] := by
    rintro ⟨rest, hrest⟩
    have hlast := congrArg List.getLast? hrest
    simp at hlast
  rw [List.infix_cons_iff, List.infix_concat_iff, or_iff_right hstart, or_iff_right hend]

theorem link?_eq_some_iff {t : Text} {directive : Directive} :
    link? t = some directive ↔ ∃ description path, t = link description path ∧
      ¬ "](".toList <:+: path ∧ directive = .includeFile path description := by
  have hcut : ∀ before after, cutLast? "](".toList t = some (before, after) ↔
      t = before ++ ("](".toList ++ after) ∧ ¬ "](".toList <:+: ("](".toList ++ after).tail :=
    fun before after => cutLast?_eq_some_iff nofun
  unfold link?
  constructor
  · intro h
    split at h
    · next hends =>
        simp only [Bool.and_eq_true, decide_eq_true_eq] at hends
        obtain ⟨⟨before, after⟩, hfound, rfl⟩ := Option.map_eq_some_iff.1 h
        obtain ⟨rfl, hlast⟩ := (hcut before after).1 hfound
        obtain ⟨description, rfl⟩ : ∃ description, before = '[' :: description := by
          cases before with
          | nil => cases hends.1
          | cons c cs => exact ⟨cs, by simpa using hends.1⟩
        obtain ⟨path, rfl⟩ : ∃ path, after = path ++ [')'] := by
          have hclosing := hends.2
          rw [List.getLast?_append, List.getLast?_append] at hclosing
          rcases List.eq_nil_or_concat' after with rfl | ⟨path, c, rfl⟩
          · cases hclosing
          · exact ⟨path, by simpa using hclosing⟩
        exact ⟨description, path, rfl, divider_infix_iff.not.1 hlast, by simp⟩
    · cases h
  · rintro ⟨description, path, rfl, hpath, rfl⟩
    have hfirst : (link description path).head? = some '[' := rfl
    have hfound := (hcut ('[' :: description) (path ++ [')'])).2 ⟨rfl, divider_infix_iff.not.2 hpath⟩
    rw [if_pos (by simp [hfirst, getLast?_link]), hfound]
    simp

theorem link_injective {description path description' path' : Text}
    (h : link description path = link description' path') (hpath : ¬ "](".toList <:+: path)
    (hpath' : ¬ "](".toList <:+: path') : description = description' ∧ path = path' := by
  have hread := link?_eq_some_iff.2 ⟨description, path, rfl, hpath, rfl⟩
  rw [h, link?_eq_some_iff.2 ⟨description', path', rfl, hpath', rfl⟩] at hread
  cases hread
  exact ⟨rfl, rfl⟩

/-! ### Keywords -/

/-- The keywords of directives. -/
def keywords : List Text :=
  ["include".toList, "include-path".toList, "if".toList, "elsif".toList, "else".toList, "end".toList]

/-- A line without its end: an exclamation mark, white space, a keyword, and nothing more or white space
and anything. -/
structure Splits (line gap keyword rest : Text) : Prop where
  line_eq : line = '!' :: (gap ++ (keyword ++ rest))
  gap_ne_nil : gap ≠ []
  gap_blank : ∀ c ∈ gap, isBlank c = true
  keyword_mem : keyword ∈ keywords
  rest_blank : ∀ c ∈ rest.head?, isBlank c = true

variable {text gap keyword rest : Text} {directive : Directive}

theorem isBlank_of_mem_keyword (h : keyword ∈ keywords) : ∀ c ∈ keyword, isBlank c = false := by
  have hall : ∀ k ∈ keywords, k.all (fun c => !isBlank c) = true := by decide
  intro c hc
  simpa using List.all_eq_true.1 (hall keyword h) c hc

/-- A keyword is found behind an exclamation mark and white space. -/
theorem keyword?_eq_some_iff : keyword? text = some (keyword, rest) ↔
    ∃ gap, trimEnd isNewline text = '!' :: (gap ++ (keyword ++ rest)) ∧ gap ≠ [] ∧
      (∀ c ∈ gap, isBlank c = true) ∧ keyword ≠ [] ∧ (∀ c ∈ keyword, isBlank c = false) ∧
      ∀ c ∈ rest.head?, isBlank c = true := by
  have htrim : ∀ t, trimEnd isNewline ('!' :: t) = '!' :: trimEnd isNewline t :=
    trimEnd_append_cons (p := isNewline) rfl []
  constructor
  · intro h
    unfold keyword? at h
    split at h
    · next t =>
        split at h
        · next c cs hbody =>
            split at h
            · next hc =>
                dsimp only at h
                split at h
                · cases h
                · next hne =>
                    obtain ⟨rfl, rfl⟩ := Prod.mk.inj (Option.some.inj h)
                    refine ⟨c :: cs.takeWhile isBlank, ?_, nofun, ?_, by simpa using hne, ?_, ?_⟩
                    · rw [htrim, hbody, List.takeWhile_append_dropWhile]
                      simp [stripStart, trimStart]
                    · exact List.forall_mem_cons.2 ⟨hc, fun d hd => List.mem_takeWhile_imp hd⟩
                    · intro d hd
                      simpa using List.mem_takeWhile_imp hd
                    · intro d hd
                      simpa using eq_false_of_head?_dropWhile d hd
            · cases h
        · cases h
    · cases h
  · rintro ⟨gap, htext, hgap, hblank, hkeyword, hsolid, hrest⟩
    obtain ⟨tail, htail⟩ : trimEnd isNewline text <+: text := List.rdropWhile_prefix _ _
    obtain ⟨t, rfl⟩ : ∃ t, text = '!' :: t := by
      rw [← htail, htext]
      exact ⟨_, rfl⟩
    rw [htrim] at htext
    obtain ⟨c, gap, rfl⟩ := List.exists_cons_of_ne_nil hgap
    rw [List.forall_mem_cons] at hblank
    have hbody : trimEnd isNewline t = c :: (gap ++ (keyword ++ rest)) := (List.cons.inj htext).2
    have hhead : ∀ d ∈ (keyword ++ rest).head?, isBlank d = false := by
      obtain ⟨k, ks, rfl⟩ := List.exists_cons_of_ne_nil hkeyword
      rintro d ⟨⟩
      exact hsolid k List.mem_cons_self
    have hstrip : stripStart (gap ++ (keyword ++ rest)) = keyword ++ rest :=
      dropWhile_run hblank.2 hhead
    have hrun : ∀ d ∈ keyword, (!isBlank d) = true := fun d hd => by simp [hsolid d hd]
    have hend : ∀ d ∈ rest.head?, (!isBlank d) = false := fun d hd => by simp [hrest d hd]
    simp [keyword?, hbody, hblank.1, hstrip, takeWhile_run hrun hend, dropWhile_run hrun hend, hkeyword]

theorem Splits.keyword?_eq (h : Splits (trimEnd isNewline text) gap keyword rest) :
    keyword? text = some (keyword, rest) := by
  have hne : ∀ k ∈ keywords, k ≠ [] := by decide
  exact keyword?_eq_some_iff.2 ⟨gap, h.line_eq, h.gap_ne_nil, h.gap_blank, hne keyword h.keyword_mem,
    isBlank_of_mem_keyword h.keyword_mem, h.rest_blank⟩

/-- White space, keyword and rest are determined by the line. -/
theorem Splits.unique {gap' keyword' rest' : Text} (h : Splits (trimEnd isNewline text) gap keyword rest)
    (h' : Splits (trimEnd isNewline text) gap' keyword' rest') :
    gap = gap' ∧ keyword = keyword' ∧ rest = rest' := by
  have hread := h.keyword?_eq
  rw [h'.keyword?_eq] at hread
  cases hread
  have hline := h.line_eq.symm.trans h'.line_eq
  exact ⟨List.append_cancel_right (List.cons.inj hline).2, rfl, rfl⟩

/-! ### Arguments -/

/-- What may follow a keyword, and the directive it makes with it. -/
inductive Argument : Text → Text → Directive → Prop
  | includeFile {rest description path : Text} (hlink : strip rest = link description path)
      (hpath : ¬ "](".toList <:+: path) :
      Argument "include".toList rest (.includeFile path description)
  | includePath {rest : Text} (hne : strip rest ≠ []) :
      Argument "include-path".toList rest (.includePath (strip rest))
  | ifCondition {rest : Text} (hne : rest ≠ []) :
      Argument "if".toList rest (.ifCondition (strip rest))
  | elsifCondition {rest : Text} (hne : rest ≠ []) :
      Argument "elsif".toList rest (.elsifCondition (strip rest))
  | elseBranch (rest : Text) : Argument "else".toList rest .elseBranch
  | endBranch {rest : Text} (hblank : ∀ c ∈ rest, isBlank c = true) :
      Argument "end".toList rest .endBranch

theorem ofKeyword?_eq_some_iff : ofKeyword? keyword rest = some directive ↔
    Argument keyword rest directive := by
  constructor
  · intro h
    unfold ofKeyword? at h
    split_ifs at h with hfile hdirectory hempty hif hnone helsif hnone helse hend hblank
    · subst hfile
      obtain ⟨description, path, hlink, hpath, rfl⟩ := link?_eq_some_iff.1 h
      exact .includeFile hlink hpath
    · subst hdirectory
      cases h
      exact .includePath (by simpa using hempty)
    · subst hif
      cases h
      exact .ifCondition (by simpa using hnone)
    · subst helsif
      cases h
      exact .elsifCondition (by simpa using hnone)
    · subst helse
      cases h
      exact .elseBranch rest
    · subst hend
      cases h
      exact .endBranch (strip_eq_nil.1 (by simpa using hblank))
  · intro h
    cases h with
    | includeFile hlink hpath =>
        exact (if_pos rfl).trans (link?_eq_some_iff.2 ⟨_, _, hlink, hpath, rfl⟩)
    | includePath hne => simp [ofKeyword?, hne]
    | ifCondition hne => simp [ofKeyword?, hne]
    | elsifCondition hne => simp [ofKeyword?, hne]
    | elseBranch => simp [ofKeyword?]
    | endBranch hblank => simp [ofKeyword?, strip_eq_nil.2 hblank]

theorem Argument.keyword_mem (h : Argument keyword rest directive) : keyword ∈ keywords := by
  cases h <;> simp [keywords]

/-- A directive is a line that splits into white space, a keyword and its argument. -/
theorem parse?_eq_some_iff : parse? text = some directive ↔
    ∃ gap keyword rest, Splits (trimEnd isNewline text) gap keyword rest ∧
      Argument keyword rest directive := by
  unfold parse?
  rw [Option.bind_eq_some_iff]
  constructor
  · rintro ⟨⟨keyword, rest⟩, hkeyword, hdirective⟩
    obtain ⟨gap, hline, hgap, hblank, -, -, hrest⟩ := keyword?_eq_some_iff.1 hkeyword
    have hargument := ofKeyword?_eq_some_iff.1 hdirective
    exact ⟨gap, keyword, rest, ⟨hline, hgap, hblank, hargument.keyword_mem, hrest⟩, hargument⟩
  · rintro ⟨gap, keyword, rest, hsplits, hargument⟩
    exact ⟨(keyword, rest), hsplits.keyword?_eq, ofKeyword?_eq_some_iff.2 hargument⟩

theorem parse?_include_iff {before after ending description path : Text} (hgap : gap ≠ [])
    (hgapBlank : ∀ c ∈ gap, isBlank c = true) (hbefore : before ≠ [])
    (hbeforeBlank : ∀ c ∈ before, isBlank c = true) (hafter : ∀ c ∈ after, isBlank c = true)
    (hending : ∀ c ∈ ending, isNewline c = true) :
    parse? ('!' :: (gap ++ ("include".toList ++ (before ++ (link description path ++
      (after ++ ending)))))) = some (.includeFile path description) ↔ ¬ "](".toList <:+: path := by
  constructor
  · intro h
    obtain ⟨gap', keyword, rest, -, hargument⟩ := parse?_eq_some_iff.1 h
    cases hargument with
    | includeFile hlink hpath => exact hpath
  · intro hpath
    have hline : '!' :: (gap ++ ("include".toList ++ (before ++ (link description path ++
        (after ++ ending))))) = ('!' :: (gap ++ ("include".toList ++ (before ++ ('[' :: (description ++
          ("](".toList ++ path))))))) ++ ')' :: (after ++ ending) := by
      simp [link]
    have hblank : ∀ c ∈ trimEnd isNewline (after ++ ending), isBlank c = true := by
      intro c hc
      have hmem := (List.rdropWhile_prefix isNewline (after ++ ending)).subset hc
      rcases List.mem_append.1 hmem with hc | hc
      · exact hafter c hc
      · exact isBlank_of_isNewline (hending c hc)
    refine parse?_eq_some_iff.2 ⟨gap, "include".toList,
      before ++ link description path ++ trimEnd isNewline (after ++ ending), ?_, ?_⟩
    · refine ⟨?_, hgap, hgapBlank, by simp [keywords], ?_⟩
      · rw [hline, trimEnd_append_cons rfl]
        simp [link]
      · obtain ⟨b, bs, rfl⟩ := List.exists_cons_of_ne_nil hbefore
        rintro c ⟨⟩
        exact hbeforeBlank b List.mem_cons_self
    · refine .includeFile ?_ hpath
      rw [strip_append hbeforeBlank hblank, strip_link]

/-- Directives are the lines of the grammar. Each is split in one way, and a link in one way; an include
that is written out is read back if and only if its path holds no divider. -/
theorem directive_grammar_exact (text : Text) :
    (∀ directive, parse? text = some directive ↔
      ∃ gap keyword rest, Splits (trimEnd isNewline text) gap keyword rest ∧
        Argument keyword rest directive) ∧
    (∀ gap keyword rest gap' keyword' rest', Splits (trimEnd isNewline text) gap keyword rest →
      Splits (trimEnd isNewline text) gap' keyword' rest' →
      gap = gap' ∧ keyword = keyword' ∧ rest = rest') ∧
    (∀ description path description' path', link description path = link description' path' →
      ¬ "](".toList <:+: path → ¬ "](".toList <:+: path' →
      description = description' ∧ path = path') ∧
    ∀ gap before description path after ending, gap ≠ [] → (∀ c ∈ gap, isBlank c = true) →
      before ≠ [] → (∀ c ∈ before, isBlank c = true) → (∀ c ∈ after, isBlank c = true) →
      (∀ c ∈ ending, isNewline c = true) →
      text = '!' :: (gap ++ ("include".toList ++ (before ++ (link description path ++
        (after ++ ending))))) →
      (parse? text = some (.includeFile path description) ↔ ¬ "](".toList <:+: path) := by
  refine ⟨fun directive => parse?_eq_some_iff, ?_, ?_, ?_⟩
  · intro gap keyword rest gap' keyword' rest' h h'
    exact h.unique h'
  · intro description path description' path' h hpath hpath'
    exact link_injective h hpath hpath'
  · rintro gap before description path after ending hgap hgapBlank hbefore hbeforeBlank hafter hending rfl
    exact parse?_include_iff hgap hgapBlank hbefore hbeforeBlank hafter hending

theorem directive_grammar_exact_brackets :
    parse? "!\tinclude  [a [b](c)](d)(e) \r\n".toList =
      some (.includeFile "d)(e".toList "a [b](c)".toList) ∧
    parse? "! include [x](a](b)".toList ≠ some (.includeFile "a](b".toList "x".toList) ∧
    ∃ gap keyword rest, Splits "! if  x".toList gap keyword rest ∧
      Argument keyword rest (.ifCondition "x".toList) := by
  refine ⟨?_, ?_, ((directive_grammar_exact "! if  x\n".toList).1 _).1 rfl⟩
  · exact ((directive_grammar_exact _).2.2.2 ['\t'] [' ', ' '] "a [b](c)".toList "d)(e".toList [' ']
      ['\r', '\n'] nofun (List.all_eq_true.1 rfl) nofun (List.all_eq_true.1 rfl)
      (List.all_eq_true.1 rfl) (List.all_eq_true.1 rfl) rfl).2 (by decide)
  · intro h
    have hpath := ((directive_grammar_exact _).2.2.2 [' '] [' '] "x".toList "a](b".toList [] []
      nofun (List.all_eq_true.1 rfl) nofun (List.all_eq_true.1 rfl) (by simp) (by simp) rfl).1 h
    exact hpath (by decide)

end Directive
end Literate
