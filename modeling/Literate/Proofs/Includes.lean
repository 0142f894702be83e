import Mathlib
import Literate.Include
import Literate.Proofs.Fences

/-! # Lines among includes

What becomes of the lines of a file when its includes are resolved. A line that is neither an `include`
nor an `include-path` directive stays, between what becomes of the lines before it and after it
(`Include.of_ends_resolve_append`). So lines without such directives stay as they are
(`Include.eq_of_ends_resolve`), and no fence is ever lost (`Include.fences_le_of_ends_resolve`). -/

namespace Literate

open Text

/-- Whether a directive names a file or a directory. -/
def Directive.isInclude : Directive → Bool
  | .includeFile _ _ => true
  | .includePath _ => true
  | _ => false

/-- Whether a line is an `include` or an `include-path` directive. -/
def Line.isInclude (line : Line) : Bool := (Directive.parse? line.text).any Directive.isInclude

theorem Line.isInclude_of_fence {extensionLanguage : Text} {line : Line} {header : Fence.Header}
    (h : Fence.Header.parse? extensionLanguage line.text = some header) :
    line.isInclude = false := by
  unfold isInclude
  rw [Directive.parse?_of_fence h]
  rfl

namespace Include

variable {tree : FileTree} {maxDepth depth : Int} {file : Path} {lines out : List Line}
  {s s' : Search} {extensionLanguage : Text}

theorem readLines_of_read {text : Text} (h : tree.read file = .ok text) :
    readLines tree file = .ok (Line.ofFile file text) := by
  unfold readLines
  rw [h]

theorem of_ends_resolveLines_append {budget : Nat} {before after : List Line}
    (h : (resolveLines tree (budget + 1) depth file (before ++ after)).Ends s (.ok out) s') :
    ∃ first others t, (resolveLines tree (budget + 1) depth file before).Ends s (.ok first) t ∧
      (resolveLines tree (budget + 1) depth file after).Ends t (.ok others) s' ∧
      out = first ++ others := by
  unfold resolveLines at h ⊢
  rw [Run.collect_append] at h
  obtain ⟨first, t, hfirst, h⟩ := Run.ends_bind_ok.1 h
  obtain ⟨others, t', hothers, h⟩ := Run.ends_bind_ok.1 h
  obtain ⟨hout, rfl⟩ := Run.ends_pure_iff.1 h
  exact ⟨first, others, t, hfirst, hothers, Except.ok.inj hout⟩

theorem ends_resolveLines_of_plain (budget : Nat) (s : Search)
    (h : ∀ line ∈ lines, line.isInclude = false) :
    (resolveLines tree (budget + 1) depth file lines).Ends s (.ok lines) s := by
  unfold resolveLines
  refine Run.ends_collect_self fun line hline => ?_
  have hplain := h line hline
  unfold Line.isInclude at hplain
  split
  · next hparse =>
      rw [hparse] at hplain
      cases hplain
  · next hparse =>
      rw [hparse] at hplain
      cases hplain
  · exact Run.ends_pure _ s

theorem of_ends_resolveLines_singleton {budget : Nat} {line : Line}
    (h : (resolveLines tree (budget + 1) depth file [line]).Ends s (.ok out) s')
    (hline : line.isInclude = false) : out = [line] :=
  Except.ok.inj (h.unique (ends_resolveLines_of_plain budget s (by simpa using hline))).1

theorem exists_budget (h : (resolve tree maxDepth file depth lines).Ends s (.ok out) s') :
    ∃ budget, resolve tree maxDepth file depth = resolveLines tree (budget + 1) depth file := by
  unfold resolve at h ⊢
  cases hbudget : (maxDepth + 1 - depth).toNat with
  | zero =>
      rw [hbudget] at h
      cases (h.unique (Run.ends_fail _ s)).1
  | succ budget => exact ⟨budget, rfl⟩

theorem eq_of_ends_resolve (h : (resolve tree maxDepth file depth lines).Ends s (.ok out) s')
    (hplain : ∀ line ∈ lines, line.isInclude = false) : out = lines := by
  obtain ⟨budget, hbudget⟩ := exists_budget h
  rw [hbudget] at h
  exact Except.ok.inj (h.unique (ends_resolveLines_of_plain budget s hplain)).1

/-- A line that is no include stays where it is, between what has become of its neighbours. -/
theorem of_ends_resolve_append {before after : List Line} {line : Line}
    (h : (resolve tree maxDepth file depth (before ++ line :: after)).Ends s (.ok out) s')
    (hline : line.isInclude = false) :
    ∃ pre post t, (resolve tree maxDepth file depth before).Ends s (.ok pre) t ∧
      out = pre ++ line :: post := by
  obtain ⟨budget, hbudget⟩ := exists_budget h
  rw [hbudget] at h ⊢
  obtain ⟨pre, others, t, hpre, hothers, rfl⟩ := of_ends_resolveLines_append h
  rw [← List.singleton_append] at hothers
  obtain ⟨single, post, u, hsingle, -, rfl⟩ := of_ends_resolveLines_append hothers
  obtain rfl := of_ends_resolveLines_singleton hsingle hline
  exact ⟨pre, post, t, hpre, rfl⟩

theorem fences_le_of_ends_resolveLines {budget : Nat}
    (h : (resolveLines tree (budget + 1) depth file lines).Ends s (.ok out) s') :
    fences extensionLanguage lines ≤ fences extensionLanguage out := by
  induction lines generalizing s out with
  | nil => simp
  | cons line rest ih =>
      rw [← List.singleton_append] at h ⊢
      obtain ⟨first, others, t, hfirst, hothers, rfl⟩ := of_ends_resolveLines_append h
      rw [fences_append, fences_append]
      refine Nat.add_le_add ?_ (ih hothers)
      cases hheader : Fence.Header.parse? extensionLanguage line.text with
      | none =>
          rw [fences_cons_of_plain hheader]
          exact Nat.zero_le _
      | some header =>
          obtain rfl := of_ends_resolveLines_singleton hfirst (Line.isInclude_of_fence hheader)
          exact le_rfl

theorem fences_le_of_ends_resolve
    (h : (resolve tree maxDepth file depth lines).Ends s (.ok out) s') :
    fences extensionLanguage lines ≤ fences extensionLanguage out := by
  obtain ⟨budget, hbudget⟩ := exists_budget h
  rw [hbudget] at h
  exact fences_le_of_ends_resolveLines h

end Include

end Literate
