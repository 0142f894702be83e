import Mathlib
import Literate.Highlight
import Literate.Proofs.Texts

/-! # What rules for display take

A pattern is read with everything that is tried behind it, so what it takes is known in two ways. Whatever
follows, a piece that was taken has the form that the pattern asks for (`Pattern.Fits`), and is no longer than
the pattern allows (`Pattern.Fits.length_le`). And a repetition takes as much as it can wherever the rest
succeeds behind the longest piece: then nothing is given back (`Pattern.Takes`). So a rule takes the pieces
of a line one by one, if each pattern can take its piece and the last one takes what is left
(`Pattern.ReadsLine`). -/

namespace Literate.Highlight

open Text

/-! ### The form of what is taken -/

namespace Pattern

variable {α : Type} {k : Text → Option α} {x : α} {here : Point} {t : Text}

/-- The text has the form that a pattern asks for. -/
def Fits : Pattern → Text → Prop
  | nothing, t => t = []
  | lineStart, t => t = []
  | one p, t => ∃ c, p c = true ∧ t = [c]
  | many p, t => ∀ c ∈ t, p c = true
  | both a b, t => ∃ s u, a.Fits s ∧ b.Fits u ∧ t = s ++ u
  | either a b, t => a.Fits t ∨ b.Fits t

theorem fits_of_read {p : Pattern} (h : p.read k here = some x) :
    ∃ taken, p.Fits taken ∧ k taken = some x := by
  induction p generalizing k here with
  | nothing => exact ⟨[], rfl, h⟩
  | lineStart =>
      rw [read] at h
      split at h
      · exact ⟨[], rfl, h⟩
      · cases h
  | one p =>
      rw [read] at h
      split at h
      · next c cs hrest =>
          split at h
          · next hc => exact ⟨[c], ⟨c, hc, rfl⟩, h⟩
          · cases h
      · cases h
  | many p =>
      obtain ⟨taken, htaken, hk⟩ := of_longestFirst_eq_some h
      exact ⟨taken, fun c hc => List.mem_takeWhile_imp (htaken.subset hc), hk⟩
  | both a b iha ihb =>
      obtain ⟨s, hs, h⟩ := iha h
      obtain ⟨u, hu, hk⟩ := ihb h
      exact ⟨s ++ u, ⟨s, u, hs, hu, rfl⟩, hk⟩
  | either a b iha ihb =>
      rcases of_orElse_eq_some h with h | h
      · obtain ⟨taken, htaken, hk⟩ := iha h
        exact ⟨taken, .inl htaken, hk⟩
      · obtain ⟨taken, htaken, hk⟩ := ihb h
        exact ⟨taken, .inr htaken, hk⟩

theorem fits_of_readAll {patterns : List Pattern} {texts : List Text}
    (h : readAll patterns here = some texts) : List.Forall₂ Fits patterns texts := by
  induction patterns generalizing here texts with
  | nil =>
      cases h
      exact .nil
  | cons p rest ih =>
      obtain ⟨t, ht, h⟩ := fits_of_read h
      obtain ⟨others, hothers, rfl⟩ := Option.map_eq_some_iff.1 h
      exact .cons ht (ih hothers)

theorem startsLine_of_readAll {patterns : List Pattern} {texts : List Text}
    (h : readAll (lineStart :: patterns) here = some texts) : here.startsLine = true := by
  rw [readAll, read] at h
  by_contra hnot
  rw [if_neg hnot] at h
  cases h

theorem fits_char {c : Char} : (char c).Fits t ↔ t = [c] := by
  constructor
  · rintro ⟨d, hd, rfl⟩
    rw [eq_of_beq hd]
  · rintro rfl
    exact ⟨c, beq_self_eq_true c, rfl⟩

theorem fits_word {w : String} : (word w).Fits t ↔ t = w.toList := by
  unfold word
  generalize w.toList = cs
  induction cs generalizing t with
  | nil => rfl
  | cons c cs ih =>
      constructor
      · rintro ⟨s, u, hs, hu, rfl⟩
        rw [fits_char.1 hs, ih.1 hu]
        rfl
      · rintro rfl
        exact ⟨[c], cs, fits_char.2 rfl, ih.2 rfl, rfl⟩

theorem Fits.ne_nil {p : Char → Bool} (h : (oneOrMore p).Fits t) : t ≠ [] := by
  obtain ⟨s, u, ⟨c, -, rfl⟩, -, rfl⟩ := h
  exact List.cons_ne_nil c u

theorem Fits.forall_mem {p : Char → Bool} (h : (oneOrMore p).Fits t) : ∀ c ∈ t, p c = true := by
  obtain ⟨s, u, ⟨c, hc, rfl⟩, hu, rfl⟩ := h
  exact List.forall_mem_cons.2 ⟨hc, hu⟩

/-- The greatest number of characters that a pattern takes, if there is one. -/
def longest? : Pattern → Option Nat
  | nothing | lineStart => some 0
  | one _ => some 1
  | many _ => none
  | both a b => do return (← a.longest?) + (← b.longest?)
  | either a b => do return max (← a.longest?) (← b.longest?)

theorem Fits.length_le {p : Pattern} {n : Nat} (h : p.Fits t) (hn : p.longest? = some n) :
    t.length ≤ n := by
  induction p generalizing t n with
  | nothing =>
      cases h
      exact Nat.zero_le n
  | lineStart =>
      cases h
      exact Nat.zero_le n
  | one p =>
      obtain ⟨c, -, rfl⟩ := h
      cases hn
      exact le_rfl
  | many p => cases hn
  | both a b iha ihb =>
      obtain ⟨s, u, hs, hu, rfl⟩ := h
      obtain ⟨m, hm, hn⟩ := Option.bind_eq_some_iff.1 hn
      obtain ⟨m', hm', hn⟩ := Option.bind_eq_some_iff.1 hn
      cases hn
      rw [List.length_append]
      exact Nat.add_le_add (iha hs hm) (ihb hu hm')
  | either a b iha ihb =>
      obtain ⟨m, hm, hn⟩ := Option.bind_eq_some_iff.1 hn
      obtain ⟨m', hm', hn⟩ := Option.bind_eq_some_iff.1 hn
      cases hn
      rcases h with h | h
      · exact le_max_of_le_left (iha h hm)
      · exact le_max_of_le_right (ihb h hm')

/-! ### What is taken of a line -/

/-- Where the longest beginning of a text leads to a result, it is the one that is taken. -/
theorem longestFirst_of_eq_some (h : k t = some x) : longestFirst k t = some x := by
  induction t generalizing k with
  | nil => exact h
  | cons c cs ih =>
      rw [longestFirst, ih h]
      rfl

/-- A pattern takes a beginning of the text wherever what is tried behind it succeeds. -/
def Takes (p : Pattern) (taken rest : Text) : Prop :=
  ∀ (α : Type) (k : Text → Option α) (x : α) (last : Option Char),
    k taken = some x → p.read k ⟨last, taken ++ rest⟩ = some x

section

variable {p : Char → Bool} {c : Char} {run rest : Text}

theorem takes_many (hrun : ∀ c ∈ run, p c = true) (hrest : ∀ c ∈ rest.head?, p c = false) :
    (many p).Takes run rest := by
  intro α k x last h
  rw [read, takeWhile_run hrun hrest]
  exact longestFirst_of_eq_some h

theorem takes_one (hc : p c = true) : (one p).Takes [c] rest := by
  intro α k x last h
  simp [read, hc, h]

theorem takes_char (c : Char) : (char c).Takes [c] rest := takes_one (beq_self_eq_true c)

theorem Takes.both {a b : Pattern} {s u : Text} (ha : a.Takes s (u ++ rest)) (hb : b.Takes u rest) :
    (both a b).Takes (s ++ u) rest := by
  intro α k x last h
  rw [read, List.append_assoc]
  refine ha α _ x last ?_
  have hafter : (⟨last, s ++ (u ++ rest)⟩ : Point).after s = ⟨s.getLast?.or last, u ++ rest⟩ := by
    simp [Point.after]
  rw [hafter]
  exact hb α _ x _ h

theorem takes_oneOrMore (hne : run ≠ []) (hrun : ∀ c ∈ run, p c = true)
    (hrest : ∀ c ∈ rest.head?, p c = false) : (oneOrMore p).Takes run rest := by
  obtain ⟨c, cs, rfl⟩ := List.exists_cons_of_ne_nil hne
  rw [List.forall_mem_cons] at hrun
  exact (takes_one hrun.1).both (takes_many hrun.2 hrest)

theorem takes_word (w : String) : (word w).Takes w.toList rest := by
  unfold word
  generalize w.toList = cs
  induction cs with
  | nil =>
      intro α k x last h
      exact h
  | cons c cs ih => exact (takes_char c).both ih

theorem Takes.optional {a : Pattern} (ha : a.Takes run rest) : (optional a).Takes run rest := by
  intro α k x last h
  rw [Pattern.optional, read, ha α k x last h]
  rfl

theorem takes_optional_char (h : rest.head? ≠ some c) : (optional (char c)).Takes [] rest := by
  intro α k x last hk
  have hnone : (char c).read k ⟨last, rest⟩ = none := by
    cases rest with
    | nil => rfl
    | cons d ds =>
        have hd : d ≠ c := fun hd => h (congrArg some hd)
        simp [char, read, hd]
  rw [Pattern.optional, read, List.nil_append, hnone]
  exact hk

end

/-- From the text of a line and its end, patterns take these pieces, and nothing is left. -/
structure ReadsLine (patterns : List Pattern) (t : Text) (texts : List Text) : Prop where
  read (last : Option Char) : readAll patterns ⟨last, t ++ ['\n']⟩ = some texts
  whole : texts.flatten = t ++ ['\n']

namespace ReadsLine

variable {patterns : List Pattern} {texts : List Text} {p : Char → Bool}

theorem cons {a : Pattern} {taken : Text} (ha : a.Takes taken (t ++ ['\n']))
    (h : ReadsLine patterns t texts) : ReadsLine (a :: patterns) (taken ++ t) (taken :: texts) where
  read last := by
    rw [readAll, List.append_assoc]
    refine ha _ _ _ last ?_
    have hafter : (⟨last, taken ++ (t ++ ['\n'])⟩ : Point).after taken =
        ⟨taken.getLast?.or last, t ++ ['\n']⟩ := by simp [Point.after]
    rw [hafter, h.read]
    rfl
  whole := by rw [List.flatten_cons, h.whole, List.append_assoc]

/-- What follows a run up to the end of the line does not continue it. -/
theorem head?_dropWhile_append (hp : p '\n' = false) (t : Text) :
    ∀ c ∈ (t.dropWhile p ++ ['\n']).head?, p c = false := by
  intro c hc
  cases hrest : t.dropWhile p with
  | nil =>
      rw [hrest] at hc
      cases hc
      exact hp
  | cons d ds =>
      rw [hrest] at hc
      refine eq_false_of_head?_dropWhile (t := t) c ?_
      rw [hrest]
      exact hc

theorem many (hp : p '\n' = false) (h : ReadsLine patterns (t.dropWhile p) texts) :
    ReadsLine (.many p :: patterns) t (t.takeWhile p :: texts) := by
  have htakes : (Pattern.many p).Takes (t.takeWhile p) (t.dropWhile p ++ ['\n']) :=
    takes_many (fun c hc => List.mem_takeWhile_imp hc) (head?_dropWhile_append hp t)
  have hreads := h.cons htakes
  rwa [List.takeWhile_append_dropWhile] at hreads

theorem oneOrMore (hp : p '\n' = false) (hne : t.takeWhile p ≠ [])
    (h : ReadsLine patterns (t.dropWhile p) texts) :
    ReadsLine (.oneOrMore p :: patterns) t (t.takeWhile p :: texts) := by
  have htakes : (Pattern.oneOrMore p).Takes (t.takeWhile p) (t.dropWhile p ++ ['\n']) :=
    takes_oneOrMore hne (fun c hc => List.mem_takeWhile_imp hc) (head?_dropWhile_append hp t)
  have hreads := h.cons htakes
  rwa [List.takeWhile_append_dropWhile] at hreads

theorem restOfLine (ht : '\n' ∉ t) : ReadsLine [restOfLine] t [t ++ ['\n']] where
  read last := by
    have hinLine : ∀ c ∈ t, isInLine c = true := by
      intro c hc
      simpa [isInLine] using ne_of_mem_of_not_mem hc ht
    have htakes : Highlight.restOfLine.Takes (t ++ ['\n']) [] :=
      (takes_many hinLine (by rintro c ⟨⟩; rfl)).both (takes_char '\n').optional
    have hread := htakes _ (fun u => (readAll [] ((⟨last, t ++ ['\n']⟩ : Point).after u)).map (u :: ·))
      _ last rfl
    rwa [List.append_nil] at hread
  whole := by simp

end ReadsLine

end Pattern

/-! ### What rules show -/

open Pattern

namespace Rule

variable {rule : Rule} {here : Point} {texts : List Text}

/-- Parts one after the other as one pattern. -/
def sequence (parts : List Part) : Pattern := parts.foldr (fun part rest => both part.pattern rest) nothing

/-- What a rule shows, as which kind and of which form. -/
def pieces (rule : Rule) : List (TokenKind × Pattern) :=
  match rule.display with
  | .nothing => []
  | .whole kind => [(kind, sequence rule.parts)]
  | .groups kinds => kinds.zip ((rule.parts.filter Part.isGroup).map Part.pattern)

theorem fits_sequence : ∀ {parts : List Part} {texts : List Text},
    List.Forall₂ Fits (parts.map Part.pattern) texts → (sequence parts).Fits texts.flatten
  | [], _, .nil => rfl
  | _ :: _, _, .cons h hrest => ⟨_, _, h, fits_sequence hrest, rfl⟩

theorem fits_groupTexts : ∀ {parts : List Part} {texts : List Text},
    List.Forall₂ Fits (parts.map Part.pattern) texts →
    List.Forall₂ Fits ((parts.filter Part.isGroup).map Part.pattern) (groupTexts parts texts)
  | [], _, .nil => .nil
  | part :: parts, _, .cons h hrest => by
      cases hgroup : part.isGroup with
      | true =>
          rw [List.filter_cons_of_pos hgroup, groupTexts, if_pos hgroup]
          exact .cons h (fits_groupTexts hrest)
      | false =>
          rw [List.filter_cons_of_neg (by simp [hgroup]), groupTexts, if_neg (by simp [hgroup])]
          exact fits_groupTexts hrest

theorem exists_mem_zip {kind : TokenKind} {t : Text} : ∀ {kinds : List TokenKind}
    {patterns : List Pattern} {texts : List Text}, List.Forall₂ Fits patterns texts →
    (kind, t) ∈ kinds.zip texts → ∃ p, (kind, p) ∈ kinds.zip patterns ∧ p.Fits t
  | [], _, _, _, hmem => by cases hmem
  | _ :: _, _, _, .nil, hmem => by cases hmem
  | first :: kinds, _, _, .cons h hrest, hmem => by
      rw [List.zip_cons_cons, List.mem_cons] at hmem
      rcases hmem with heq | hmem
      · cases heq
        exact ⟨_, List.mem_cons_self, h⟩
      · obtain ⟨p, hp, hfits⟩ := exists_mem_zip hrest hmem
        exact ⟨p, List.mem_cons_of_mem _ hp, hfits⟩

theorem exists_piece_of_mem_tokens {token : Token} (h : rule.match? here = some texts)
    (htoken : token ∈ rule.tokens texts) : ∃ p, (token.kind, p) ∈ rule.pieces ∧ p.Fits token.text := by
  have hfits := fits_of_readAll h
  obtain ⟨parts, display, move⟩ := rule
  cases display with
  | nothing => cases htoken
  | whole kind =>
      obtain rfl := List.mem_singleton.1 htoken
      exact ⟨_, List.mem_singleton.2 rfl, fits_sequence hfits⟩
  | groups kinds =>
      obtain ⟨part, hpart, rfl⟩ := List.mem_map.1 htoken
      exact exists_mem_zip (fits_groupTexts hfits) (List.mem_filter.1 hpart).1

theorem map_pattern_ofLine (patterns : List Pattern) (kinds : List TokenKind) :
    (ofLine patterns kinds).parts.map Part.pattern = .lineStart :: patterns := by
  simp [ofLine, Function.comp_def]

/-- A rule for the start of a line applies there, to pieces that its patterns ask for. -/
theorem of_match?_ofLine {patterns : List Pattern} {kinds : List TokenKind}
    (h : (ofLine patterns kinds).match? here = some texts) :
    here.startsLine = true ∧
      ∃ pieces behind, List.Forall₂ Fits patterns pieces ∧ here.rest = pieces.flatten ++ behind := by
  rw [match?, map_pattern_ofLine] at h
  obtain ⟨⟨behind, hbehind⟩, -⟩ := of_readAll_eq_some h
  obtain ⟨_, pieces, rfl, hfits, rfl⟩ := List.forall₂_cons_left_iff.1 (fits_of_readAll h)
  exact ⟨startsLine_of_readAll h, pieces, behind, hfits, hbehind.symm⟩

end Rule

end Literate.Highlight
