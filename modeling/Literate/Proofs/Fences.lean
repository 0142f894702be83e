import Mathlib
import Literate.Directive
import Literate.Fragment
import Literate.Proofs.Run

/-! # Fences and the fragments between them

What a fence line looks like (`Fence.Header.parse?_eq_some_iff`), and how collecting goes over the
lines of a document: prose is passed over, a fence opens a fragment, code is added to it and the next
fence closes it (`Fragment.collectFrom_prose` and the lemmas after it).

Opening and closing fences look alike, so only their number tells them apart. A document can be
collected if it has an even number of fence lines (`Fragment.exists_collectFrom_iff`), and a fence
opens a fragment if the number of fence lines before it is even (`Fragment.opensAt_iff`). -/

namespace Literate

open Text

/-! ### Fence lines -/

namespace Fence.Header

variable {extensionLanguage line : Text} {header : Header}

/-- A fence line is an indentation, the marker, and anything. -/
theorem parse?_eq_some_iff :
    parse? extensionLanguage line = some header ↔
      ∃ indent rest, (∀ c ∈ indent, isIndent c = true) ∧ line = indent ++ (marker ++ rest) ∧
        header = ofRest extensionLanguage indent rest := by
  constructor
  · intro h
    obtain ⟨rest, hrest, rfl⟩ := Option.map_eq_some_iff.1 h
    refine ⟨line.takeWhile isIndent, rest, fun c hc => List.mem_takeWhile_imp hc, ?_, rfl⟩
    rw [← after?_eq_some_iff.1 hrest, List.takeWhile_append_dropWhile]
  · rintro ⟨indent, rest, hindent, rfl, rfl⟩
    have hdrop : (marker ++ rest).dropWhile isIndent = marker ++ rest := rfl
    have htake : (marker ++ rest).takeWhile isIndent = [] := rfl
    unfold parse?
    rw [List.dropWhile_append_of_pos hindent, List.takeWhile_append_of_pos hindent, hdrop, htake,
      after?_eq_some_iff.2 rfl, List.append_nil]
    rfl

theorem parse?_marker (extensionLanguage rest : Text) :
    parse? extensionLanguage (marker ++ rest) = some (ofRest extensionLanguage [] rest) :=
  parse?_eq_some_iff.2 ⟨[], rest, by simp, rfl, rfl⟩

theorem parse?_written (extensionLanguage : Text) {indent language tail : Text}
    (hindent : ∀ c ∈ indent, isIndent c = true) (hword : ∀ c ∈ language, isWordChar c = true)
    (htail : ∀ c ∈ tail.head?, isNewline c = true) :
    parse? extensionLanguage (indent ++ (marker ++ ' ' :: (language ++ tail))) =
      some { indent, language } := by
  refine parse?_eq_some_iff.2 ⟨indent, _, hindent, rfl, ?_⟩
  have hend : ∀ p : Char → Bool, p '\n' = false → p '\r' = false →
      tail.dropWhile p = tail ∧ tail.takeWhile p = [] := by
    intro p hfeed hreturn
    cases tail with
    | nil => exact ⟨rfl, rfl⟩
    | cons c cs =>
        have hc : p c = false := by
          have hnewline := htail c rfl
          simp only [isNewline, Bool.or_eq_true, beq_iff_eq] at hnewline
          rcases hnewline with rfl | rfl
          · exact hfeed
          · exact hreturn
        simp [hc]
  have hspaces : (' ' :: (language ++ tail)).dropWhile (· == ' ') = language ++ tail := by
    cases language with
    | nil => simpa using (hend (· == ' ') rfl rfl).1
    | cons c cs =>
        have hc : c ≠ ' ' := by
          rintro rfl
          cases hword ' ' List.mem_cons_self
        simp [hc]
  have hmark : ∀ c, isNewline c = false → tail.head? ≠ some c := by
    intro c hc h
    rw [htail c h] at hc
    cases hc
  simp [ofRest, roleOf, hspaces, List.takeWhile_append_of_pos hword,
    List.dropWhile_append_of_pos hword, (hend isWordChar rfl rfl).1, (hend isWordChar rfl rfl).2,
    (hend (· == ' ') rfl rfl).1, (hend isNameChar rfl rfl).2, hmark '!' rfl, hmark '=' rfl]

theorem indent_of_parse? (h : parse? extensionLanguage line = some header) :
    ∀ c ∈ header.indent, isIndent c = true := by
  obtain ⟨indent, rest, hindent, -, rfl⟩ := parse?_eq_some_iff.1 h
  exact hindent

theorem language_of_parse? (h : parse? extensionLanguage line = some header) :
    ∀ c ∈ header.language, isWordChar c = true := by
  obtain ⟨indent, rest, -, -, rfl⟩ := parse?_eq_some_iff.1 h
  exact fun c hc => List.mem_takeWhile_imp hc

/-- A line that starts with another character than those of an indentation and of the marker is no
fence. -/
theorem parse?_cons_eq_none {c : Char} (cs : Text) (hindent : isIndent c = false)
    (hmarker : c ≠ '`') : parse? extensionLanguage (c :: cs) = none := by
  have hdrop : (c :: cs).dropWhile isIndent = c :: cs := by simp [hindent]
  unfold parse?
  rw [hdrop]
  simp [marker, after?, Ne.symm hmarker]

end Fence.Header

namespace Directive

theorem parse?_marker (rest : Text) : parse? (Fence.marker ++ rest) = none := rfl

theorem parse?_of_fence {extensionLanguage line : Text} {header : Fence.Header}
    (h : Fence.Header.parse? extensionLanguage line = some header) : parse? line = none := by
  have hmark : ∀ cs, line ≠ '!' :: cs := by
    rintro cs rfl
    rw [Fence.Header.parse?_cons_eq_none cs rfl (by decide)] at h
    cases h
  unfold parse? keyword?
  split
  · next cs => exact absurd rfl (hmark cs)
  · rfl

end Directive

/-- Whether a line is a fence. -/
def Line.isFence (extensionLanguage : Text) (line : Line) : Bool :=
  (Fence.Header.parse? extensionLanguage line.text).isSome

/-- How many of some lines are fences. -/
def fences (extensionLanguage : Text) (lines : List Line) : Nat :=
  lines.countP (Line.isFence extensionLanguage)

section

variable {extensionLanguage : Text} {line : Line} {lines rest : List Line}

theorem Line.isFence_eq_true_iff :
    line.isFence extensionLanguage = true ↔
      ∃ header, Fence.Header.parse? extensionLanguage line.text = some header :=
  Option.isSome_iff_exists

theorem Line.isFence_eq_false_iff :
    line.isFence extensionLanguage = false ↔
      Fence.Header.parse? extensionLanguage line.text = none :=
  Option.isSome_eq_false_iff.trans Option.isNone_iff_eq_none

@[simp] theorem fences_nil : fences extensionLanguage [] = 0 := rfl

theorem fences_append : fences extensionLanguage (lines ++ rest) =
    fences extensionLanguage lines + fences extensionLanguage rest :=
  List.countP_append

theorem fences_cons_of_fence {header : Fence.Header}
    (h : Fence.Header.parse? extensionLanguage line.text = some header) :
    fences extensionLanguage (line :: rest) = fences extensionLanguage rest + 1 :=
  List.countP_cons_of_pos (Line.isFence_eq_true_iff.2 ⟨header, h⟩)

theorem fences_cons_of_plain (h : Fence.Header.parse? extensionLanguage line.text = none) :
    fences extensionLanguage (line :: rest) = fences extensionLanguage rest :=
  List.countP_cons_of_neg (by simp [Line.isFence_eq_false_iff.2 h])

end

/-! ### Fragments -/

namespace Fragment

variable {extensionLanguage : Text} {line : Line} {lines rest : List Line}

theorem collectFrom_prose
    (h : ∀ line ∈ lines, Fence.Header.parse? extensionLanguage line.text = none) :
    collectFrom extensionLanguage none (lines ++ rest) = collectFrom extensionLanguage none rest := by
  induction lines with
  | nil => rfl
  | cons line lines ih =>
      rw [List.forall_mem_cons] at h
      rw [List.cons_append, collectFrom, ih h.2]
      exact h.1

theorem collectFrom_code {fragment : Fragment}
    (h : ∀ line ∈ lines, Fence.Header.parse? extensionLanguage line.text = none) :
    collectFrom extensionLanguage (some fragment) (lines ++ rest) =
      collectFrom extensionLanguage
        (some { fragment with lines := fragment.lines ++ lines.map Line.text }) rest := by
  induction lines generalizing fragment with
  | nil => simp
  | cons line lines ih =>
      rw [List.forall_mem_cons] at h
      rw [List.cons_append, collectFrom, ih h.2]
      · simp
      · exact h.1

theorem collectFrom_opening {header : Fence.Header}
    (h : Fence.Header.parse? extensionLanguage line.text = some header) :
    collectFrom extensionLanguage none (line :: rest) =
      collectFrom extensionLanguage (some ⟨header, [], line⟩) rest := by
  simp [collectFrom, h]

theorem collectFrom_closing {fragment : Fragment} {header : Fence.Header}
    (h : Fence.Header.parse? extensionLanguage line.text = some header) :
    collectFrom extensionLanguage (some fragment) (line :: rest) = (do
      return fragment :: (← collectFrom extensionLanguage none rest)) := by
  simp [collectFrom, h]

theorem collectFrom_closing_eq_ok_iff {fragment : Fragment} {header : Fence.Header}
    {fragments : List Fragment}
    (h : Fence.Header.parse? extensionLanguage line.text = some header) :
    collectFrom extensionLanguage (some fragment) (line :: rest) = .ok fragments ↔
      ∃ others, collectFrom extensionLanguage none rest = .ok others ∧
        fragments = fragment :: others := by
  rw [collectFrom_closing h, Result.bind_eq_ok]
  refine exists_congr fun others => and_congr_right fun _ => ?_
  exact ⟨fun h => (Except.ok.inj h).symm, fun h => congrArg Except.ok h.symm⟩

/-- One line that is no fence: it is passed over, or added to the fragment that is open. -/
theorem collectFrom_plain (current : Option Fragment)
    (h : Fence.Header.parse? extensionLanguage line.text = none) :
    collectFrom extensionLanguage current (line :: rest) =
      collectFrom extensionLanguage
        (current.map fun fragment => { fragment with lines := fragment.lines ++ [line.text] })
        rest := by
  cases current with
  | none => simp [collectFrom, h]
  | some fragment => simp [collectFrom, h]

/-- Collecting fails at the end of the document or not at all: it needs a fence for the fragment that
is open and two for every other one. -/
theorem exists_collectFrom_iff {current : Option Fragment} :
    (∃ fragments, collectFrom extensionLanguage current lines = .ok fragments) ↔
      (Even (fences extensionLanguage lines) ↔ current = none) := by
  induction lines generalizing current with
  | nil => cases current <;> simp [collectFrom]
  | cons line rest ih =>
      cases hheader : Fence.Header.parse? extensionLanguage line.text with
      | none =>
          rw [collectFrom_plain current hheader, fences_cons_of_plain hheader, ih,
            Option.map_eq_none_iff]
      | some header =>
          rw [fences_cons_of_fence hheader, Nat.even_add_one]
          cases current with
          | none =>
              rw [collectFrom_opening hheader, ih]
              simp
          | some fragment =>
              simp only [collectFrom_closing_eq_ok_iff hheader]
              rw [exists_comm]
              simp [ih]

theorem exists_collect_iff :
    (∃ fragments, collect extensionLanguage lines = .ok fragments) ↔
      Even (fences extensionLanguage lines) := by
  unfold collect
  rw [exists_collectFrom_iff]
  simp

theorem collectFrom_append {current : Option Fragment} {fragments : List Fragment}
    (h : collectFrom extensionLanguage current lines = .ok fragments) :
    collectFrom extensionLanguage current (lines ++ rest) = (do
      return fragments ++ (← collectFrom extensionLanguage none rest)) := by
  induction lines generalizing current fragments with
  | nil =>
      cases current with
      | none =>
          cases h
          simp
      | some fragment => cases h
  | cons line lines ih =>
      rw [List.cons_append]
      cases hheader : Fence.Header.parse? extensionLanguage line.text with
      | none =>
          rw [collectFrom_plain current hheader] at h ⊢
          exact ih h
      | some header =>
          cases current with
          | none =>
              rw [collectFrom_opening hheader] at h ⊢
              exact ih h
          | some fragment =>
              obtain ⟨others, hothers, rfl⟩ := (collectFrom_closing_eq_ok_iff hheader).1 h
              rw [collectFrom_closing hheader, ih hothers]
              simp

/-- The fragment that is open comes first, and keeps its header and its opening line. -/
theorem cons_of_collectFrom {fragment : Fragment} {fragments : List Fragment}
    (h : collectFrom extensionLanguage (some fragment) lines = .ok fragments) :
    ∃ first others, fragments = first :: others ∧ first.header = fragment.header ∧
      first.opened = fragment.opened := by
  induction lines generalizing fragment with
  | nil => cases h
  | cons line lines ih =>
      cases hheader : Fence.Header.parse? extensionLanguage line.text with
      | none =>
          rw [collectFrom_plain _ hheader] at h
          exact (ih h :)
      | some header =>
          obtain ⟨others, -, rfl⟩ := (collectFrom_closing_eq_ok_iff hheader).1 h
          exact ⟨fragment, others, rfl, rfl, rfl⟩

/-- Collecting opens a fragment at a line that stands between others. -/
def OpensAt (extensionLanguage : Text) (before : List Line) (line : Line) (after : List Line) :
    Prop :=
  ∃ first fragment others, collect extensionLanguage before = .ok first ∧
    collect extensionLanguage (before ++ line :: after) = .ok (first ++ fragment :: others) ∧
    fragment.opened = line

theorem opensAt_iff {before after : List Line} {header : Fence.Header}
    {fragments : List Fragment}
    (hheader : Fence.Header.parse? extensionLanguage line.text = some header)
    (h : collect extensionLanguage (before ++ line :: after) = .ok fragments) :
    OpensAt extensionLanguage before line after ↔ Even (fences extensionLanguage before) := by
  rw [← exists_collect_iff]
  constructor
  · rintro ⟨first, fragment, others, hfirst, -, -⟩
    exact ⟨first, hfirst⟩
  · rintro ⟨first, hfirst⟩
    have happend : collect extensionLanguage (before ++ line :: after) = (do
        return first ++ (← collectFrom extensionLanguage none (line :: after))) :=
      collectFrom_append hfirst
    rw [collectFrom_opening hheader, h] at happend
    obtain ⟨last, hlast, hfragments⟩ := Result.bind_eq_ok.1 happend.symm
    obtain ⟨fragment, others, rfl, -, hopened⟩ := cons_of_collectFrom hlast
    cases hfragments
    exact ⟨first, fragment, others, hfirst, h, hopened⟩

end Fragment
end Literate
