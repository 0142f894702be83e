import Mathlib
import Literate.Extension
import Literate.Proofs.Meaning

/-! # The filters of a context

The filters that a run finds are those registered in its context. Built-in filters and filters of the
surrounding program leave the context alone, so as long as extension code has registered none of its
own, they are pure filters in the sense of `Filters.PureOn` (`filters_pureOn`). Built-in filters also
make lines of lines (`BuiltinFilters.total`). A fresh context has no others. -/

namespace Literate.Script

/-- The filters that are registered in a context. -/
def filters : Filters Context := ⟨findFilter, do return (← Run.get).view⟩

namespace Context

variable (c : Context)

/-- The function of a filter that is no extension code. -/
def function? (v : Value) : Option (List Value → Except Fault (List Value)) :=
  match c.object? v with
  | some (.builtinFilter b) => some fun items => (b.onValues c.view items).mapError Fault.ofFailure
  | some (.hostFilter h) => some (h c.view)
  | _ => none

/-- Extension code has registered no filter. -/
def PlainFilters : Prop := ∀ entry ∈ c.filterEntries, (c.function? entry.2).isSome

/-- What is registered under the names. -/
def registry : Registry where
  function? name := (c.entry? c.filterEntries (.text name)).bind c.function?
  view := c.view

/-- Only built-in filters are registered. -/
def BuiltinFilters : Prop :=
  ∀ entry ∈ c.filterEntries, ∃ b, c.object? entry.2 = some (.builtinFilter b)

theorem fresh_builtinFilters (indentUnit : Text) : (fresh indentUnit).BuiltinFilters := by
  intro entry hentry
  have hmem : entry ∈ (BuiltinFilter.all indentUnit).zipIdx.map
      fun p => (Value.text p.1.1, Value.cell p.2) := hentry
  rw [List.mem_map] at hmem
  obtain ⟨⟨f, address⟩, hf, rfl⟩ := hmem
  obtain ⟨-, hlt, -⟩ := List.mem_zipIdx hf
  simp only [BuiltinFilter.all, List.length_cons, List.length_nil] at hlt
  have hcases : address = 0 ∨ address = 1 ∨ address = 2 ∨ address = 3 ∨ address = 4 := by omega
  rcases hcases with rfl | rfl | rfl | rfl | rfl <;> exact ⟨_, rfl⟩

variable {c}

/-- What applying a plain filter does: it computes its function and leaves the context alone. -/
theorem ends_applyFilter {v : Value} {g : List Value → Except Fault (List Value)}
    (hg : c.function? v = some g) (items : List Value) :
    (applyFilter v items).Ends c (g items) c := by
  unfold function? at hg
  unfold applyFilter
  refine (Run.ends_get c).bind ?_
  split at hg
  · next b hb =>
      obtain rfl := Option.some.inj hg
      simp only [hb]
      cases b.onValues c.view items with
      | error failure => exact Run.ends_fail _ c
      | ok values => exact Run.ends_pure values c
  · next h hh =>
      obtain rfl := Option.some.inj hg
      simp only [hh]
      exact Run.ends_ofExcept _ c
  · cases hg

theorem BuiltinFilters.plain (h : c.BuiltinFilters) : c.PlainFilters := by
  intro entry hentry
  obtain ⟨b, hb⟩ := h entry hentry
  simp [function?, hb]

theorem ends_registered? (name : Text) :
    (registered? name).Ends c (.ok (c.entry? c.filterEntries (.text name))) c := ⟨rfl, rfl⟩

theorem mem_of_entry? {entries : List (Value × Value)} {key v : Value}
    (h : c.entry? entries key = some v) : ∃ entry ∈ entries, entry.2 = v := by
  unfold entry? at h
  obtain ⟨entry, hentry, rfl⟩ := Option.map_eq_some_iff.1 h
  exact ⟨entry, List.mem_of_find?_eq_some hentry, rfl⟩

theorem mapM_onText (view : ValueView) (member : String) (f : Text → Text)
    (torn : List Point → Except Failure Text) : ∀ lines : List Text,
    (lines.map Value.text).mapM (BuiltinFilter.onText view member f torn) =
      .ok ((lines.map f).map .text)
  | [] => rfl
  | line :: lines => by
      rw [List.map_cons, List.mapM_cons, mapM_onText view member f torn lines]
      rfl

theorem shown_text (t : Text) : c.view.shown (.text t) = t.map .char := by
  show c.shownWithin c.depth (.text t) = t.map .char
  rw [shownWithin]

theorem indented_text (unit t : Text) :
    BuiltinFilter.indented c.view unit (.text t) = .text (unit ++ t) := by
  unfold BuiltinFilter.indented
  rw [shown_text, ← List.map_append, Value.ofPoints_map_char]

theorem onValues_texts (b : BuiltinFilter) (lines : List Text) :
    b.onValues c.view (lines.map .text) = .ok ((b.onTexts lines).map .text) := by
  cases b with
  | escapeLines => exact mapM_onText c.view _ _ _ lines
  | quoteContents => exact mapM_onText c.view _ _ _ lines
  | addCommas => exact mapM_onText c.view _ _ _ lines
  | indentLines unit => simp [BuiltinFilter.onValues, BuiltinFilter.onTexts, indented_text]
  | indentContinuation unit =>
      cases lines with
      | nil => rfl
      | cons first rest => simp [BuiltinFilter.onValues, BuiltinFilter.onTexts, indented_text]

theorem BuiltinFilters.total (h : c.BuiltinFilters) : c.registry.Total := by
  intro name g hg lines
  obtain ⟨v, hentry, hv⟩ := Option.bind_eq_some_iff.1 hg
  obtain ⟨entry, hmem, rfl⟩ := mem_of_entry? hentry
  obtain ⟨b, hb⟩ := h entry hmem
  simp only [function?, hb, Option.some.injEq] at hv
  refine ⟨b.onTexts lines, ?_⟩
  rw [← hv]
  exact congrArg (Except.mapError Fault.ofFailure) (onValues_texts b lines)

end Context

variable {c : Context}

theorem filters_pureOn (h : c.PlainFilters) : filters.PureOn (· = c) c.registry where
  absent name hnone := by
    have hentry : c.entry? c.filterEntries (.text name) = none := by
      cases he : c.entry? c.filterEntries (.text name) with
      | none => rfl
      | some v =>
          obtain ⟨entry, hmem, rfl⟩ := Context.mem_of_entry? he
          have hsome := h entry hmem
          simp only [Context.registry, he, Option.bind_some] at hnone
          rw [hnone] at hsome
          cases hsome
    refine Run.Ends.means ((Context.ends_registered? name).bind ?_)
    rw [hentry]
    exact Run.ends_pure _ c
  present name g hg := by
    obtain ⟨v, hentry, hv⟩ := Option.bind_eq_some_iff.1 hg
    refine ⟨applyFilter v, Run.Ends.means ((Context.ends_registered? name).bind ?_),
      fun items => (Context.ends_applyFilter hv items).means⟩
    rw [hentry]
    cases v with
    | none => cases hv
    | _ => exact Run.ends_pure _ c
  view := Run.Ends.means ⟨rfl, rfl⟩

end Literate.Script
