import Mathlib
import Literate.Proofs.Renaming
import Literate.Proofs.Tokenizing

/-! # Writing segments and reading them back

A text can be put together from literal spans and references, each reference written with any number of
spaces around its name and its filters (`Form.render`). If the literal spans hold no opening delimiter, and
none of them ends in an escape that would protect the reference behind it (`Readable`), the text is cut into
the same segments again (`tokenize_render`).

A literal span is passed over one character at a time, up to its end (`scan_literal`). A reference ends at
the closing delimiter it is written with, since no part of it can hold one, and its parts lose the spaces
when they are read (`parse?_spaced`). So the scan stands at the beginning of a segment whenever it has read
one, and the proof goes by induction on the list of segments. -/

namespace Literate

open Text

/-! ### Spaces around a part -/

namespace Reference

/-- A part of a reference and the spaces before and after it. -/
structure Spaced where
  before : Nat := 0
  part : Text
  after : Nat := 0

theorem isPart_iff {part : Text} : IsPart part ↔ part = [] ∨ IsName part := by
  constructor
  · intro h
    by_cases hne : part = []
    · exact .inl hne
    · exact .inr ⟨hne, h.stripped, h.token⟩
  · rintro (rfl | h)
    · exact ⟨rfl, by simp⟩
    · exact h.isPart

instance (part : Text) : Decidable (IsPart part) := decidable_of_iff _ isPart_iff.symm

namespace Spaced

variable {s : Spaced}

/-- How a part is written. -/
def written (s : Spaced) : Text := List.replicate s.before ' ' ++ s.part ++ List.replicate s.after ' '

theorem strip_written (h : IsPart s.part) : strip s.written = s.part := by
  have hspaces : ∀ n, ∀ c ∈ List.replicate n ' ', isBlank c = true := by
    intro n c hc
    rw [(List.mem_replicate.1 hc).2]
    rfl
  rw [written, strip_append (hspaces _) (hspaces _), h.stripped]

theorem token_written (h : IsPart s.part) : ∀ c ∈ s.written, isTokenChar c = true ∧ c ≠ '|' := by
  have hspaces : ∀ n, ∀ c ∈ List.replicate n ' ', isTokenChar c = true ∧ c ≠ '|' := by
    intro n c hc
    rw [(List.mem_replicate.1 hc).2]
    decide
  intro c hc
  rcases List.mem_append.1 hc with hc | hc
  · rcases List.mem_append.1 hc with hc | hc
    · exact hspaces _ c hc
    · exact h.token c hc
  · exact hspaces _ c hc

end Spaced

theorem parse?_spaced {name : Spaced} {filters : List Spaced} (hname : IsName name.part)
    (hfilters : ∀ f ∈ filters, IsPart f.part) :
    parse? (joinWith ['|'] ((name :: filters).map Spaced.written)) =
      some { name := name.part, filters := filters.map Spaced.part } := by
  have hparts : ∀ f ∈ name :: filters, IsPart f.part :=
    List.forall_mem_cons.2 ⟨hname.isPart, hfilters⟩
  have hstrip : (filters.map Spaced.written).map strip = filters.map Spaced.part := by
    rw [List.map_map]
    exact List.map_congr_left fun f hf => Spaced.strip_written (hfilters f hf)
  have hnonempty : strip name.written ≠ [] := by
    rw [Spaced.strip_written hname.isPart]
    exact hname.nonempty
  rw [List.map_cons, parse?_joinWith_strip hnonempty, hstrip, Spaced.strip_written hname.isPart]
  intro part hpart
  obtain ⟨f, hf, rfl⟩ := List.mem_map.1 (List.map_cons ▸ hpart)
  exact Spaced.token_written (hparts f hf)

end Reference

/-! ### Texts put together from segments -/

namespace Segment

open Reference

/-- A segment that is to be written. -/
inductive Form where
  | literal (t : Text)
  | reference (name : Spaced) (filters : List Spaced)

namespace Form

/-- The text of a segment: a reference has bars between its parts, and stands between the delimiters. -/
def render : Form → Text
  | literal t => t
  | reference name filters => '⦅' :: joinWith ['|'] ((name :: filters).map Spaced.written) ++ ['⦆']

/-- The segment as it should be read. -/
def segment : Form → Segment
  | literal t => .literal t
  | reference name filters =>
    .reference
      { name := name.part
        filters := filters.map Spaced.part
        raw := (reference name filters).render }

/-- A literal span that is not empty and holds no opening delimiter, or a reference with a name. -/
def Sound : Form → Prop
  | literal t => t ≠ [] ∧ '⦅' ∉ t
  | reference name filters => IsName name.part ∧ ∀ f ∈ filters, IsPart f.part

instance : DecidablePred Sound
  | literal t => inferInstanceAs (Decidable (t ≠ [] ∧ '⦅' ∉ t))
  | reference name filters =>
    inferInstanceAs (Decidable (IsName name.part ∧ ∀ f ∈ filters, IsPart f.part))

/-- One may stand before the other: a literal span before a reference that it does not protect. -/
def Precedes : Form → Form → Prop
  | literal _, literal _ => False
  | literal t, reference _ _ => t.getLast? ≠ some '\\'
  | reference _ _, _ => True

instance : DecidableRel Precedes
  | literal _, literal _ => inferInstanceAs (Decidable False)
  | literal t, reference _ _ => inferInstanceAs (Decidable (t.getLast? ≠ some '\\'))
  | reference _ _, _ => inferInstanceAs (Decidable True)

end Form

/-- Segments that can be told apart when they are written one after the other. -/
structure Readable (forms : List Form) : Prop where
  sound : ∀ form ∈ forms, form.Sound
  order : forms.IsChain Form.Precedes

theorem readable_iff {forms : List Form} :
    Readable forms ↔ (∀ form ∈ forms, form.Sound) ∧ forms.IsChain Form.Precedes :=
  ⟨fun h => ⟨h.sound, h.order⟩, fun h => ⟨h.1, h.2⟩⟩

instance (forms : List Form) : Decidable (Readable forms) := decidable_of_iff _ readable_iff.symm

theorem Readable.tail {form : Form} {forms : List Form} (h : Readable (form :: forms)) :
    Readable forms where
  sound other hother := h.sound other (List.mem_cons_of_mem _ hother)
  order := h.order.tail

/-! ### Reading them back -/

theorem scan_literal {rest : Text} : ∀ {t : Text} {last : Option Char}, '⦅' ∉ t →
    scan {} last (t ++ rest) = pushText t (scan {} (t.getLast?.or last) rest)
  | [], last, _ => rfl
  | c :: cs, last, h => by
      rw [List.mem_cons, not_or] at h
      rw [List.cons_append, scan_cons_of_ne rfl (Ne.symm h.1), scan_literal h.2, pushText_cons,
        getLast?_cons_or]

theorem scan_reference {name : Spaced} {filters : List Spaced} (hname : IsName name.part)
    (hfilters : ∀ f ∈ filters, IsPart f.part) {last : Option Char}
    (hlast : Delimiters.protectedBy {} last = false) (rest : Text) :
    scan {} last ((Form.reference name filters).render ++ rest) =
      (Form.reference name filters).segment :: scan {} (some '⦆') rest := by
  have hparse := parse?_spaced hname hfilters
  have hclosing : '⦆' ∉ joinWith ['|'] ((name :: filters).map Spaced.written) := by
    intro hm
    have htoken := isTokenChar_of_parse? hparse _ hm
    rw [isTokenChar_closing] at htoken
    cases htoken
  have hread : read? {} ((Form.reference name filters).render ++ rest) = some
      ({ name := name.part
         filters := filters.map Spaced.part
         raw := (Form.reference name filters).render }, rest) :=
    (read?_eq_some_iff rfl rfl).2 ⟨_, _, by simp, hclosing, hparse, rfl⟩
  have hscan := scan_cons_of_live rfl hlast hread
  have hend : (Form.reference name filters).render.getLast? = some '⦆' :=
    List.getLast?_concat
  rw [hend] at hscan
  exact hscan

/-- A literal span before segments that do not begin with another one is a segment of its own. -/
theorem pushText_segments {t : Text} (ht : t ≠ []) {forms : List Form}
    (h : (Form.literal t :: forms).IsChain Form.Precedes) :
    pushText t (forms.map Form.segment) = .literal t :: forms.map Form.segment := by
  have hspan : span t = [.literal t] := if_neg (by simpa using ht)
  cases forms with
  | nil => exact (pushText_nil t).trans hspan
  | cons next rest =>
      cases next with
      | literal u => exact absurd (List.isChain_cons_cons.1 h).1 id
      | reference name filters =>
          rw [List.map_cons, Form.segment, pushText_reference, hspan]
          rfl

/-- The character before the first segment does not protect it. -/
def Unprotected (last : Option Char) (forms : List Form) : Prop :=
  ∀ name filters, forms.head? = some (.reference name filters) →
    Delimiters.protectedBy {} last = false

/-- The scan of written segments gives them back, one after the other. -/
theorem scan_render : ∀ {forms : List Form} {last : Option Char}, Readable forms →
    Unprotected last forms → scan {} last (forms.flatMap Form.render) = forms.map Form.segment
  | [], last, _, _ => by
      rw [List.flatMap_nil, scan]
      rfl
  | .reference name filters :: rest, last, h, hlast => by
      obtain ⟨hname, hfilters⟩ := h.sound (.reference name filters) List.mem_cons_self
      have hrest : Unprotected (some '⦆') rest := fun _ _ _ => rfl
      rw [List.flatMap_cons, scan_reference hname hfilters (hlast name filters rfl),
        scan_render h.tail hrest, List.map_cons]
  | .literal t :: rest, last, h, _ => by
      obtain ⟨hne, hopening⟩ := h.sound (.literal t) List.mem_cons_self
      have hrest : Unprotected (t.getLast?.or last) rest := by
        intro name filters hhead
        have hescape : t.getLast? ≠ some '\\' := (List.isChain_cons.1 h.order).1 _ hhead
        rw [List.getLast?_eq_getLast_of_ne_nil hne] at hescape ⊢
        refine beq_eq_false_iff_ne.2 fun hprotected => hescape ?_
        rw [(List.cons.inj hprotected).1]
      rw [List.flatMap_cons, Form.render, scan_literal hopening, scan_render h.tail hrest,
        pushText_segments hne h.order, List.map_cons]
      rfl

/-- Segments that can be told apart are found again in the text they are written as: the same literal spans,
and references of the same names and filters, in the same order. -/
theorem tokenize_render (forms : List Form) (h : Readable forms) :
    tokenize {} (forms.flatMap Form.render) = forms.map Form.segment := by
  refine scan_render h ?_
  intro _ _ _
  rfl

/-- Stray delimiters and escapes in literal spans, references side by side, an empty filter. -/
theorem tokenize_render_mixed :
    Readable [.literal "\\a⦆ ".toList,
        .reference { before := 1, part := "é x".toList, after := 2 }
          [{ part := [], after := 1 }, { part := "f-2".toList }],
        .reference { part := "y".toList } [], .literal "b\\".toList] ∧
      tokenize {} "\\a⦆ ⦅ é x  | |f-2⦆⦅y⦆b\\".toList =
        [.literal "\\a⦆ ".toList,
          .reference
            { name := "é x".toList
              filters := [[], "f-2".toList]
              raw := "⦅ é x  | |f-2⦆".toList },
          .reference { name := "y".toList, raw := "⦅y⦆".toList }, .literal "b\\".toList] := by
  have h : Readable [.literal "\\a⦆ ".toList,
      .reference { before := 1, part := "é x".toList, after := 2 }
        [{ part := [], after := 1 }, { part := "f-2".toList }],
      .reference { part := "y".toList } [], .literal "b\\".toList] := by decide +kernel
  exact ⟨h, tokenize_render _ h⟩

end Segment
end Literate
