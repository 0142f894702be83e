import Mathlib
import Literate.Proofs.Headers
import Literate.Proofs.Highlighting
import Literate.Proofs.Matching

/-! # Fences as they are highlighted

A fence line is read twice: for the header of a fragment, from left to right and without looking back, and
for display, by two rules that are tried one after the other and may give characters back. The two readings
come to the same (`fences_highlighted_as_read`).

On a fence line each part of a rule takes exactly the part of the header that it stands for
(`exists_readsLine_block`, `exists_readsLine_extension`), and the line is taken to its end, so nothing else is
shown of it (`shownAs_of_parse?`). The other way round, the marker of a fence is shown by these two rules
only, and only at the start of a line, so a line in which it is shown is a fence (`fence_of_mem_run`).

The rule for extension code knows no extension language. A fence that announces code in another language is
therefore the one kind of fence that is read differently. -/

namespace Literate

open Text

namespace Fence.Header

variable {header : Header}

theorem mark_eq_replacing_iff : header.mark = ['='] ↔ header.replacing = true := by
  unfold mark replacing
  rcases header.role with _ | ⟨_ | _, name⟩ <;> simp

theorem mark_eq_extension_iff : header.mark = ['!'] ↔ header.isExtension = true := by
  unfold mark isExtension
  rcases header.role with _ | ⟨_ | _, name⟩ <;> simp

end Fence.Header

namespace Highlight

/-! ### The two rules on a fence line -/

open Fence Pattern

variable {extensionLanguage line : Text} {header : Header}

/-- The mark and the name of a block are taken as the header has them. -/
theorem readsLine_role (indent : Text) {language t : Text} (ht : '\n' ∉ t)
    (hrole : Header.roleOf extensionLanguage language t ≠ .extension) :
    ∃ tail, ReadsLine [optional (char '='), many isNameChar, restOfLine] t
      [Header.mark ⟨indent, language, Header.roleOf extensionLanguage language t⟩,
        Header.name ⟨indent, language, Header.roleOf extensionLanguage language t⟩, tail] := by
  unfold Header.roleOf at hrole ⊢
  split at hrole
  · exact absurd rfl hrole
  · next hmark =>
      rw [if_neg hmark]
      split
      · next hreplace =>
          obtain ⟨cs, rfl⟩ := List.head?_eq_some_iff.1 hreplace
          have htail : '\n' ∉ cs.dropWhile isNameChar := fun hmem =>
            ht (List.mem_cons_of_mem _ ((List.dropWhile_sublist _).subset hmem))
          exact ⟨_, .cons (takes_char '=').optional (.many rfl (.restOfLine htail))⟩
      · next hplain =>
          have htail : '\n' ∉ t.dropWhile isNameChar := fun hmem =>
            ht ((List.dropWhile_sublist _).subset hmem)
          have hhead : (t ++ ['\n']).head? ≠ some '=' := by
            cases t with
            | nil => decide
            | cons c cs => exact hplain
          exact ⟨_, .cons (takes_optional_char hhead) (.many rfl (.restOfLine htail))⟩

/-- What stands behind the language of a fence and the spaces after it. -/
def behindLanguage (rest : Text) : Text :=
  ((rest.dropWhile (· == ' ')).dropWhile isWordChar).dropWhile (· == ' ')

theorem not_mem_behindLanguage {indent rest : Text} {c : Char} (h : c ∉ indent ++ (marker ++ rest)) :
    c ∉ behindLanguage rest := by
  have hsuffix : behindLanguage rest <:+ rest :=
    (List.dropWhile_suffix _).trans ((List.dropWhile_suffix _).trans (List.dropWhile_suffix _))
  intro hmem
  exact h (List.mem_append_right _ (List.mem_append_right _ (hsuffix.subset hmem)))

theorem exists_readsLine_block (hline : '\n' ∉ line)
    (h : Header.parse? extensionLanguage line = some header) (hblock : header.role ≠ .extension) :
    ∃ before after tail, ReadsLine
      [many isIndent, word "```", spaces, many isWordChar, spaces, optional (char '='), many isNameChar,
        restOfLine] line
      [header.indent, marker, before, header.language, after, header.mark, header.name, tail] := by
  obtain ⟨indent, rest, hindent, rfl, rfl⟩ := Header.parse?_eq_some_iff.1 h
  obtain ⟨tail, htail⟩ := readsLine_role indent (not_mem_behindLanguage hline) hblock
  exact ⟨_, _, tail, .cons (takes_many hindent (by rintro c ⟨⟩; rfl))
    (.cons (takes_word "```") (.many rfl (.many rfl (.many rfl htail))))⟩

/-- The extension language and its mark are taken as the header has them. -/
theorem exists_readsLine_extension (hline : '\n' ∉ line)
    (h : Header.parse? extensionLanguage line = some header) (hextension : header.role = .extension) :
    ∃ before after tail, ReadsLine
      [many isIndent, word "```", spaces, oneOrMore isWordChar, spaces, char '!', restOfLine] line
      [header.indent, marker, before, header.language, after, ['!'], tail] := by
  obtain ⟨indent, rest, hindent, rfl, rfl⟩ := Header.parse?_eq_some_iff.1 h
  have hbehind := not_mem_behindLanguage hline
  obtain ⟨hne, hmark⟩ : (rest.dropWhile (· == ' ')).takeWhile isWordChar ≠ [] ∧
      (behindLanguage rest).head? = some '!' := by
    unfold Header.ofRest Header.roleOf at hextension
    dsimp only at hextension
    split at hextension
    · next hmark =>
        simp only [Bool.and_eq_true, Bool.not_eq_true', List.isEmpty_eq_false_iff,
          decide_eq_true_eq] at hmark
        exact ⟨hmark.1.1, hmark.2⟩
    · split at hextension <;> cases hextension
  obtain ⟨cs, hcs⟩ := List.head?_eq_some_iff.1 hmark
  rw [hcs, List.mem_cons, not_or] at hbehind
  have htail : ReadsLine [char '!', restOfLine] (behindLanguage rest) [['!'], cs ++ ['\n']] := by
    rw [hcs]
    exact .cons (takes_char '!') (.restOfLine hbehind.2)
  exact ⟨_, _, _, .cons (takes_many hindent (by rintro c ⟨⟩; rfl))
    (.cons (takes_word "```") (.many rfl (.oneOrMore rfl hne (.many rfl htail))))⟩

/-! ### A document of one line -/

/-- The texts of the tokens that are shown as a kind. -/
def shownAs (kind : TokenKind) (tokens : List Token) : List Text :=
  (tokens.filter fun token => token.kind = kind).map Token.text

theorem mem_shownAs {kind : TokenKind} {tokens : List Token} {t : Text} :
    t ∈ shownAs kind tokens ↔ ⟨kind, t⟩ ∈ tokens := by
  unfold shownAs
  constructor
  · intro h
    obtain ⟨⟨_, _⟩, htoken, rfl⟩ := List.mem_map.1 h
    obtain ⟨hmem, hkind⟩ := List.mem_filter.1 htoken
    obtain rfl := of_decide_eq_true hkind
    exact hmem
  · intro h
    exact List.mem_map.2 ⟨_, List.mem_filter.2 ⟨h, decide_eq_true rfl⟩, rfl⟩

/-- The texts that are not empty. -/
def nonempty (texts : List Text) : List Text := texts.filter fun t => !t.isEmpty

theorem nonempty_singleton (t : Text) : nonempty [t] = if t = [] then [] else [t] := by
  cases t <;> rfl

theorem mem_nonempty_singleton {t u : Text} (ht : t ≠ []) : t ∈ nonempty [u] ↔ u = t := by
  rw [nonempty_singleton]
  split
  · next hu => simp [hu, ht.symm]
  · simp [eq_comm]

theorem groupTexts_groups : ∀ {patterns : List Pattern} {texts : List Text},
    patterns.length = texts.length → groupTexts (patterns.map (⟨·, true⟩)) texts = texts
  | [], [], _ => rfl
  | _ :: _, t :: _, h => congrArg (t :: ·) (groupTexts_groups (Nat.succ.inj h))

/-- Of the pieces of a line, those are shown as a kind that have the kind and are not empty. -/
theorem shownAs_ofLine {patterns : List Pattern} {kinds : List TokenKind} {t : Text}
    {texts : List Text} (kind : TokenKind) (h : ReadsLine patterns t texts) :
    shownAs kind ((Rule.ofLine patterns kinds).tokens ([] :: texts)) =
      nonempty (((kinds.zip texts).filter fun part => part.1 = kind).map Prod.snd) := by
  have hgroups : groupTexts (Rule.ofLine patterns kinds).parts ([] :: texts) = texts :=
    groupTexts_groups (fits_of_readAll (h.read none)).length_eq
  have htokens : (Rule.ofLine patterns kinds).tokens ([] :: texts) =
      ((kinds.zip texts).filter fun part => !part.2.isEmpty).map fun part => ⟨part.1, part.2⟩ := by
    show (List.filter _ (List.zip kinds (groupTexts (Rule.ofLine patterns kinds).parts ([] :: texts)))).map
      _ = _
    rw [hgroups]
  rw [htokens]
  simp [shownAs, nonempty, List.filter_map, List.filter_filter, Function.comp_def, Bool.and_comm]

namespace Reader

/-- The reader at the beginning of a document of one line. -/
def atLine (line : Text) : Reader := { here := { rest := line ++ ['\n'] } }

theorem step_eq_none_of_end {r : Reader} (hrest : r.here.rest = []) (hmode : r.mode = .plain) :
    r.step = none := by
  cases hstep : r.step with
  | none => rfl
  | some next =>
      obtain ⟨rule, hrule, texts, htexts, -, -⟩ := exists_rule_of_step hstep
      obtain ⟨hbegins, hne⟩ := of_readAll_eq_some htexts
      rw [hrest, List.prefix_nil] at hbegins
      rcases takes_or_leaves r.mode rule hrule with htakes | ⟨hplain, -⟩
      · exact absurd hbegins (hne htakes)
      · exact absurd hmode hplain

/-- A line that the first rule which applies to it takes whole is shown as that rule shows it. -/
theorem run_atLine {patterns : List Pattern} {kinds : List TokenKind} {texts : List Text}
    {before after : List Rule} (hrules : rules .plain = before ++ .ofLine patterns kinds :: after)
    (hbefore : ∀ rule ∈ before, (atLine line).follow? rule = none)
    (h : ReadsLine patterns line texts) :
    (atLine line).run = (Rule.ofLine patterns kinds).tokens ([] :: texts) := by
  have hmatch : (Rule.ofLine patterns kinds).match? (atLine line).here = some ([] :: texts) := by
    rw [Rule.match?, Rule.map_pattern_ofLine, readAll, Pattern.read]
    have hread := h.read none
    simp [atLine, Point.startsLine, Point.after, hread]
  have hfollow : (atLine line).follow? (Rule.ofLine patterns kinds) =
      some ((Rule.ofLine patterns kinds).tokens ([] :: texts),
        ⟨[], (atLine line).here.after ([] :: texts).flatten⟩) := by
    rw [follow?, hmatch]
    rfl
  have hstep : (atLine line).step = some ((Rule.ofLine patterns kinds).tokens ([] :: texts),
      ⟨[], (atLine line).here.after ([] :: texts).flatten⟩) := by
    have hfind : (rules (atLine line).mode).findSome? (atLine line).follow? =
        (atLine line).follow? (Rule.ofLine patterns kinds) := by
      show (rules .plain).findSome? (atLine line).follow? = _
      rw [hrules, List.findSome?_append, List.findSome?_eq_none_iff.2 hbefore, Option.none_or,
        List.findSome?_cons, hfollow]
    rw [step, hfind, hfollow]
  have hend : ((atLine line).here.after ([] :: texts).flatten).rest = [] := by
    rw [Point.rest_after, List.flatten_cons, List.nil_append, h.whole]
    exact List.drop_length
  rw [run_of_step_eq_some hstep, run_of_step_eq_none (step_eq_none_of_end hend rfl), List.append_nil]

end Reader

/-! ### Lines that are no fences -/

/-- The rules that are tried before those for fences. -/
def directiveRules : List Rule := (rules .plain).take 4

theorem rules_plain :
    rules .plain = directiveRules ++ extensionFence :: blockFence :: (rules .plain).drop 6 := rfl

theorem mark_of_mem {mode : Mode} : ∀ rule ∈ rules mode, rule = extensionFence ∨ rule = blockFence ∨
    ∀ piece ∈ rule.pieces, piece.1 = .punctuation → piece.2.longest?.any (· < marker.length) = true := by
  cases mode with
  | insideReference =>
      intro rule hrule
      exact .inr (.inr (by revert rule; decide))
  | plain =>
      intro rule hrule
      rw [rules_plain, List.mem_append, List.mem_cons, List.mem_cons] at hrule
      rcases hrule with hrule | hrule | hrule | hrule
      · exact .inr (.inr (by revert rule; decide))
      · exact .inl hrule
      · exact .inr (.inl hrule)
      · exact .inr (.inr (by revert rule; decide))

theorem fence_of_mem_tokens {mode : Mode} {rule : Rule} {here : Point} {texts : List Text}
    (hrule : rule ∈ rules mode) (h : rule.match? here = some texts)
    (hmem : ⟨.punctuation, marker⟩ ∈ rule.tokens texts) : rule = extensionFence ∨ rule = blockFence := by
  obtain ⟨p, hpiece, hfits⟩ := Rule.exists_piece_of_mem_tokens h hmem
  rcases mark_of_mem rule hrule with hfence | hfence | hshort
  · exact .inl hfence
  · exact .inr hfence
  · obtain ⟨n, hn, hlt⟩ := (Option.any_eq_true _ _).1 (hshort _ hpiece rfl)
    have hle := hfits.length_le hn
    exact absurd (of_decide_eq_true hlt) (Nat.not_lt.2 hle)

namespace Reader

variable {r next last : Reader} {found : List Token}

theorem last_step (h : r.step = some (found, next)) :
    next.here.last = (textOf found).getLast?.or r.here.last := by
  obtain ⟨rule, hrule, texts, htexts, rfl, rfl⟩ := exists_rule_of_step h
  rw [Rule.textOf_tokens (covers_of_mem rule hrule) htexts]
  rfl

/-- The character before the reader is the last one that was shown. -/
theorem Steps.last_eq (h : Steps r found last) :
    last.here.last = (textOf found).getLast?.or r.here.last := by
  induction h with
  | refl r => rfl
  | @step r next last found others hstep _ ih =>
      have htext : textOf (found ++ others) = textOf found ++ textOf others := List.flatMap_append
      rw [ih, last_step hstep, htext, List.getLast?_append, Option.or_assoc]

theorem Steps.exists_step_of_mem {token : Token} (h : Steps r found last) (htoken : token ∈ found) :
    ∃ before here shown next, Steps r before here ∧ here.step = some (shown, next) ∧ token ∈ shown := by
  induction h with
  | refl => cases htoken
  | @step r next last found others hstep _ ih =>
      rcases List.mem_append.1 htoken with hfound | hothers
      · exact ⟨[], r, found, next, .refl r, hstep, hfound⟩
      · obtain ⟨before, here, shown, next', hsteps, hhere, hmem⟩ := ih hothers
        exact ⟨found ++ before, here, shown, next', .step hstep hsteps, hhere, hmem⟩

end Reader

/-- A part of a line and its end that does not reach to the end is a part of the line. -/
theorem exists_of_append_eq {a b : Text} {c : Char} (h : a ++ c :: b = line ++ ['\n']) (hb : b ≠ []) :
    ∃ tail, line = a ++ c :: tail := by
  obtain ⟨tail, d, rfl⟩ := (List.eq_nil_or_concat' b).resolve_left hb
  refine ⟨tail, ?_⟩
  have hinit := congrArg List.dropLast h
  rw [List.dropLast_concat, ← List.cons_append, ← List.append_assoc, List.dropLast_concat] at hinit
  exact hinit.symm

theorem ne_nil_of_append_eq {a b : Text} {c : Char} (h : a ++ c :: b = line ++ ['\n']) (hc : c ≠ '\n') :
    b ≠ [] := by
  rintro rfl
  have hlast := congrArg List.getLast? h
  simp [hc] at hlast

theorem of_match?_fence {here : Point} {patterns : List Pattern} {kinds : List TokenKind}
    {texts : List Text}
    (h : (Rule.ofLine (many isIndent :: word "```" :: patterns) kinds).match? here = some texts) :
    here.startsLine = true ∧ ∃ indent rest, (∀ c ∈ indent, isIndent c = true) ∧
      here.rest = indent ++ (marker ++ rest) := by
  obtain ⟨hstarts, pieces, behind, hfits, hrest⟩ := Rule.of_match?_ofLine h
  simp only [List.forall₂_cons_left_iff] at hfits
  obtain ⟨indent, _, hindent, ⟨_, others, hmarker, -, rfl⟩, rfl⟩ := hfits
  obtain rfl := fits_word.1 hmarker
  refine ⟨hstarts, indent, others.flatten ++ behind, hindent, ?_⟩
  rw [hrest]
  simp only [List.flatten_cons, List.append_assoc]
  rfl

theorem fence_of_mem_run (hline : '\n' ∉ line)
    (h : ⟨.punctuation, marker⟩ ∈ (Reader.atLine line).run) :
    ∃ header, Header.parse? extensionLanguage line = some header := by
  obtain ⟨last, hsteps, -⟩ := Reader.exists_steps_run (Reader.atLine line)
  obtain ⟨before, r, shown, next, hbefore, hstep, hmem⟩ := hsteps.exists_step_of_mem h
  obtain ⟨rule, hrule, texts, htexts, rfl, -⟩ := Reader.exists_rule_of_step hstep
  obtain ⟨hstarts, indent, rest, hindent, hrest⟩ : r.here.startsLine = true ∧
      ∃ indent rest, (∀ c ∈ indent, isIndent c = true) ∧ r.here.rest = indent ++ (marker ++ rest) := by
    rcases fence_of_mem_tokens hrule htexts hmem with rfl | rfl
    · exact of_match?_fence htexts
    · exact of_match?_fence htexts
  have htext : textOf before ++ r.here.rest = line ++ ['\n'] := hbefore.textOf_append
  have hnothing : textOf before = [] := by
    by_contra hne
    obtain ⟨init, c, hinit⟩ := (List.eq_nil_or_concat' (textOf before)).resolve_left hne
    have hc : c = '\n' := by
      have hlast := hbefore.last_eq
      rw [hinit] at hlast
      simpa [Point.startsLine, hlast] using hstarts
    rw [hinit, hc, List.append_assoc, List.singleton_append] at htext
    obtain ⟨tail, rfl⟩ := exists_of_append_eq htext (by simp [hrest, marker])
    exact hline (by simp)
  rw [hnothing, List.nil_append, hrest] at htext
  have hmarker : (indent ++ ['`', '`']) ++ '`' :: rest = line ++ ['\n'] := by
    rw [← htext]
    simp [marker]
  obtain ⟨tail, rfl⟩ := exists_of_append_eq hmarker (ne_nil_of_append_eq hmarker (by decide))
  exact ⟨_, Header.parse?_eq_some_iff.2 ⟨indent, tail, hindent, by simp [marker], rfl⟩⟩

/-! ### Fence lines -/

/-- The line is a fence, and an exclamation mark follows its language. -/
def Announces (language line : Text) : Prop :=
  language ≠ [] ∧ (∀ c ∈ language, isWordChar c = true) ∧
    ∃ indent before after rest, (∀ c ∈ indent, isIndent c = true) ∧
      line = Header.written before after ⟨indent, language, .extension⟩ ++ rest

/-- Then it opens extension code, if that language is the extension language. -/
theorem Announces.parse? {language : Text} (h : Announces language line) :
    ∃ indent, Header.parse? language line = some ⟨indent, language, .extension⟩ := by
  obtain ⟨hne, hword, indent, before, after, rest, hindent, rfl⟩ := h
  exact ⟨indent, Header.parse?_written_extension rest before after hindent hword hne⟩

theorem exists_announces_of_match? {texts : List Text}
    (h : extensionFence.match? (Reader.atLine line).here = some texts) :
    ∃ language, Announces language line := by
  obtain ⟨-, pieces, behind, hfits, hrest⟩ := Rule.of_match?_ofLine h
  simp only [List.forall₂_cons_left_iff, List.forall₂_nil_left_iff] at hfits
  obtain ⟨indent, _, hindent, ⟨_, _, hmarker, ⟨before, _, hbefore, ⟨language, _, hlanguage, ⟨after, _,
    hafter, ⟨_, _, hmark, ⟨rest, _, -, rfl, rfl⟩, rfl⟩, rfl⟩, rfl⟩, rfl⟩, rfl⟩, rfl⟩ := hfits
  obtain rfl := fits_word.1 hmarker
  obtain rfl := fits_char.1 hmark
  have hspaces : ∀ {t : Text}, spaces.Fits t → t = List.replicate t.length ' ' := by
    intro t ht
    exact List.eq_replicate_length.2 fun c hc => by simpa using ht c hc
  have hmarked : (indent ++ (marker ++ (before ++ (language ++ after)))) ++ '!' :: (rest ++ behind) =
      line ++ ['\n'] := by
    refine Eq.trans ?_ hrest.symm
    simp [marker]
  obtain ⟨tail, rfl⟩ := exists_of_append_eq hmarked (ne_nil_of_append_eq hmarked (by decide))
  refine ⟨language, hlanguage.ne_nil, hlanguage.forall_mem, indent, before.length, after.length, tail,
    hindent, ?_⟩
  simp [Header.written, Header.mark, Header.name, ← hspaces hbefore, ← hspaces hafter]

section

variable (hline : '\n' ∉ line) (h : Header.parse? extensionLanguage line = some header)
include h

theorem follow?_directive : ∀ rule ∈ directiveRules, (Reader.atLine line).follow? rule = none := by
  have hmark : ∀ patterns kinds,
      (Reader.atLine line).follow? (.ofLine (char '!' :: patterns) kinds) = none := by
    intro patterns kinds
    rw [Reader.follow?, Option.map_eq_none_iff, Option.eq_none_iff_forall_ne_some]
    intro texts htexts
    obtain ⟨-, pieces, behind, hfits, hrest⟩ := Rule.of_match?_ofLine htexts
    obtain ⟨_, others, hfirst, -, rfl⟩ := List.forall₂_cons_left_iff.1 hfits
    obtain rfl := fits_char.1 hfirst
    cases line with
    | nil => cases h
    | cons c cs =>
        obtain ⟨rfl, -⟩ := List.cons.inj hrest
        rw [Header.parse?_cons_eq_none cs rfl (by decide)] at h
        cases h
  intro rule hrule
  simp only [directiveRules, rules, List.take_succ_cons, List.take_zero, List.mem_cons,
    List.not_mem_nil, or_false] at hrule
  rcases hrule with rfl | rfl | rfl | rfl
  · exact hmark _ _
  · exact hmark _ _
  · exact hmark _ _
  · exact hmark _ _

include hline

/-- The parts of a header are shown as what they are, and nothing else is. -/
theorem shownAs_of_parse? (hown : ∀ language, Announces language line → language = extensionLanguage) :
    shownAs .punctuation (Reader.atLine line).run = [marker] ∧
    shownAs .language (Reader.atLine line).run = nonempty [header.language] ∧
    shownAs .operator (Reader.atLine line).run = nonempty [header.mark] ∧
    shownAs .tag (Reader.atLine line).run = nonempty [header.name] := by
  by_cases hrole : header.role = .extension
  · obtain ⟨before, after, tail, hreads⟩ := exists_readsLine_extension hline h hrole
    have hrun := Reader.run_atLine rules_plain (follow?_directive h) hreads
    have hmark : header.mark = ['!'] := by rw [Header.mark, hrole]
    have hname : header.name = [] := by rw [Header.name, hrole]
    rw [hrun, hmark, hname]
    exact ⟨shownAs_ofLine _ hreads, shownAs_ofLine _ hreads, shownAs_ofLine _ hreads,
      shownAs_ofLine _ hreads⟩
  · obtain ⟨before, after, tail, hreads⟩ := exists_readsLine_block hline h hrole
    -- the rule for extension code would take a line that announces it, in the extension language
    have hextension : (Reader.atLine line).follow? extensionFence = none := by
      rw [Reader.follow?, Option.map_eq_none_iff, Option.eq_none_iff_forall_ne_some]
      intro texts htexts
      obtain ⟨language, hannounces⟩ := exists_announces_of_match? htexts
      obtain rfl := hown language hannounces
      obtain ⟨indent, hannounced⟩ := hannounces.parse?
      rw [hannounced] at h
      cases h
      exact hrole rfl
    have hbefore : ∀ rule ∈ directiveRules ++ [extensionFence],
        (Reader.atLine line).follow? rule = none := by
      rw [List.forall_mem_append]
      exact ⟨follow?_directive h, by simpa using hextension⟩
    have hrules : rules .plain =
        (directiveRules ++ [extensionFence]) ++ blockFence :: (rules .plain).drop 6 := rfl
    have hrun := Reader.run_atLine hrules hbefore hreads
    rw [hrun]
    exact ⟨shownAs_ofLine _ hreads, shownAs_ofLine _ hreads, shownAs_ofLine _ hreads,
      shownAs_ofLine _ hreads⟩

end

theorem normalizeNewlines_eq_self : ∀ {t : Text}, '\r' ∉ t → normalizeNewlines t = t
  | [], _ => rfl
  | c :: cs, h => by
      rw [List.mem_cons, not_or] at h
      rw [normalizeNewlines, if_neg (Ne.symm h.1), normalizeNewlines_eq_self h.2]

theorem prepare_line (hfeed : '\n' ∉ line) (hreturn : '\r' ∉ line)
    (hmark : line.head? ≠ some '\uFEFF') : prepare line = line ++ ['\n'] := by
  have hnone : ∀ c ∈ line, (c == '\n') = false := by
    intro c hc
    simpa using ne_of_mem_of_not_mem hc hfeed
  have hstart : trimStart (· == '\n') line = line := by
    cases line with
    | nil => rfl
    | cons c cs => exact List.dropWhile_cons_of_neg (by simp [hnone c List.mem_cons_self])
  have hend : trimEnd (· == '\n') line = line := by
    rcases List.eq_nil_or_concat' line with rfl | ⟨init, c, rfl⟩
    · rfl
    · exact trimEnd_append_cons (p := (· == '\n')) (hnone c (by simp)) init []
  simp only [prepare, if_neg hmark, normalizeNewlines_eq_self hreturn, hstart, hend]

/-- **Fences are highlighted as they are read.** The marker of a fence is shown in a line exactly if the line
is a fence, and then its language and the name of its block are shown, if there are any, and no others; the
mark for replacing lines is shown exactly if the fence replaces lines, and the mark for extension code
exactly if it opens some. A fence that announces code in a language which is not the extension language is
left out. -/
theorem fences_highlighted_as_read (extensionLanguage line : Text)
    (hline : ∀ c ∈ line, c ≠ '\n' ∧ c ≠ '\r') (hfirst : line.head? ≠ some '\uFEFF')
    (hown : ∀ language, Announces language line → language = extensionLanguage) :
    (⟨.punctuation, marker⟩ ∈ highlight line ↔
      (Header.parse? extensionLanguage line).isSome = true) ∧
    ∀ header, Header.parse? extensionLanguage line = some header →
      shownAs .language (highlight line) = (if header.language = [] then [] else [header.language]) ∧
      (⟨.operator, ['=']⟩ ∈ highlight line ↔ header.replacing = true) ∧
      (⟨.operator, ['!']⟩ ∈ highlight line ↔ header.isExtension = true) ∧
      shownAs .tag (highlight line) = (if header.name = [] then [] else [header.name]) := by
  have hfeed : '\n' ∉ line := fun hmem => (hline _ hmem).1 rfl
  have hreturn : '\r' ∉ line := fun hmem => (hline _ hmem).2 rfl
  have hrun : highlight line = (Reader.atLine line).run := by
    rw [highlight, prepare_line hfeed hreturn hfirst]
    rfl
  rw [hrun, Option.isSome_iff_exists]
  refine ⟨⟨fence_of_mem_run hfeed, ?_⟩, ?_⟩
  · rintro ⟨header, h⟩
    rw [← mem_shownAs, (shownAs_of_parse? hfeed h hown).1]
    exact List.mem_singleton.2 rfl
  · intro header h
    obtain ⟨-, hlanguage, hoperator, hname⟩ := shownAs_of_parse? hfeed h hown
    rw [← mem_shownAs, ← mem_shownAs, hoperator, hlanguage, hname,
      nonempty_singleton header.language, nonempty_singleton header.name]
    refine ⟨rfl, ?_, ?_, rfl⟩
    · rw [mem_nonempty_singleton (List.cons_ne_nil _ _), Header.mark_eq_replacing_iff]
    · rw [mem_nonempty_singleton (List.cons_ne_nil _ _), Header.mark_eq_extension_iff]

/-- A fence that replaces the lines of a block, and one that opens extension code. -/
theorem fences_highlighted_as_read_marked :
    let block := "\t```  py=set-up (old)".toList
    let extension := " ```py !x".toList
    (∀ language, Announces language block → language = "py".toList) ∧
    ⟨.punctuation, marker⟩ ∈ highlight block ∧ shownAs .language (highlight block) = ["py".toList] ∧
    ⟨.operator, ['=']⟩ ∈ highlight block ∧ shownAs .tag (highlight block) = ["set-up".toList] ∧
    (∀ language, Announces language extension → language = "py".toList) ∧
    ⟨.operator, ['!']⟩ ∈ highlight extension ∧ ⟨.operator, ['=']⟩ ∉ highlight extension ∧
    shownAs .tag (highlight extension) = [] := by
  intro block extension
  have hblock : ∀ language, Announces language block → language = "py".toList := by
    intro language h
    obtain ⟨indent, h⟩ := h.parse?
    exact (congrArg Header.language (Option.some.inj h)).symm
  have hextension : ∀ language, Announces language extension → language = "py".toList := by
    intro language h
    obtain ⟨indent, h⟩ := h.parse?
    exact (congrArg Header.language (Option.some.inj h)).symm
  obtain ⟨hmarker, hheader⟩ :=
    fences_highlighted_as_read "py".toList block (by simp [block]) (by decide) hblock
  obtain ⟨-, hheader'⟩ :=
    fences_highlighted_as_read "py".toList extension (by simp [extension]) (by decide) hextension
  obtain ⟨hlanguage, hreplacing, -, htag⟩ := hheader _ rfl
  obtain ⟨-, hreplacing', hmark, htag'⟩ := hheader' _ rfl
  exact ⟨hblock, hmarker.2 rfl, hlanguage, hreplacing.2 rfl, htag, hextension, hmark.2 rfl,
    fun h => Bool.false_ne_true (hreplacing'.1 h), htag'⟩

end Highlight

end Literate
