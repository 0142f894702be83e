import Mathlib
import Literate.Expansion
import Literate.Proofs.Segment

/-! # Escaping a text and taking the escapes away

A text is protected by writing the escape before every delimiter in it (`Symbols.protect`). A protected
text holds no live reference (`quiet_protect`), and taking the escapes away gives the text back
(`unescape_protect`), even where it has escapes of its own before delimiters.

The escapes are taken away in two passes, one for each delimiter. Each is a case of one law about
escaping the characters of a class: to replace an escaped `x` by `x` everywhere is to take `x` out of
the class (`replaceAll_escapeIn`). -/

namespace Literate

open Text

namespace Text

variable {e : Char} {p : Char → Bool}

/-- Write `e` before every character in the class `p`. -/
def escapeIn (e : Char) (p : Char → Bool) : Text → Text
  | [] => []
  | c :: cs => if p c then e :: c :: escapeIn e p cs else c :: escapeIn e p cs

theorem escapeIn_append (a b : Text) :
    escapeIn e p (a ++ b) = escapeIn e p a ++ escapeIn e p b := by
  induction a with
  | nil => rfl
  | cons c cs ih =>
      rw [List.cons_append]
      by_cases hc : p c = true
      · simp [escapeIn, hc, ih]
      · simp [escapeIn, hc, ih]

theorem escapeIn_of_free {t : Text} (h : ∀ c ∈ t, p c = false) : escapeIn e p t = t := by
  induction t with
  | nil => rfl
  | cons c cs ih =>
      rw [List.forall_mem_cons] at h
      simp [escapeIn, h.1, ih h.2]

theorem mem_of_mem_escapeIn {c : Char} {t : Text} (h : c ∈ escapeIn e p t) : c = e ∨ c ∈ t := by
  induction t with
  | nil => exact .inr h
  | cons d ds ih =>
      unfold escapeIn at h
      split at h
      · grind
      · grind

/-- Escaping does not reach into an indentation, and makes none. -/
theorem dropWhile_escapeIn {q : Char → Bool} (he : q e = false)
    (hp : ∀ c, p c = true → q c = false) (t : Text) :
    (escapeIn e p t).dropWhile q = escapeIn e p (t.dropWhile q) := by
  induction t with
  | nil => rfl
  | cons c cs ih =>
      by_cases hc : p c = true
      · simp [escapeIn, hc, he, hp c hc]
      · by_cases hq : q c = true
        · simp [escapeIn, hc, hq, ih]
        · simp [escapeIn, hc, hq]

/-! ### Replacing -/

theorem head?_escapeIn_ne {x : Char} (hx : p x = true) (hne : e ≠ x) (t : Text) :
    (escapeIn e p t).head? ≠ some x := by
  cases t with
  | nil => simp [escapeIn]
  | cons c cs =>
      by_cases hc : p c = true
      · simpa [escapeIn, hc] using hne
      · have hcx : c ≠ x := by
          rintro rfl
          exact hc hx
        simpa [escapeIn, hc] using hcx

theorem replaceFrom_cons_of_ne {a b c : Char} {new cs : Text}
    (h : c = a → cs.head? ≠ some b) :
    replaceFrom [a, b] new 0 (c :: cs) = c :: replaceFrom [a, b] new 0 cs := by
  have hstart : [a, b].isPrefixOf (c :: cs) = false := by
    cases cs with
    | nil => simp [List.isPrefixOf]
    | cons d ds =>
        by_cases hc : c = a
        · have hd : d ≠ b := by simpa using h hc
          simp [List.isPrefixOf, Ne.symm hd]
        · simp [List.isPrefixOf, Ne.symm hc]
  simp [replaceFrom, hstart]

/-- Replacing an escaped `x` by `x` takes `x` out of the class that is escaped. -/
theorem replaceAll_escapeIn {x : Char} (hx : p x = true) (he : p e = false) (t : Text) :
    replaceAll [e, x] [x] (escapeIn e p t) = escapeIn e (fun c => p c && c != x) t := by
  have hne : e ≠ x := by
    rintro rfl
    rw [hx] at he
    cases he
  show replaceFrom [e, x] [x] 0 (escapeIn e p t) = _
  induction t with
  | nil => rfl
  | cons c cs ih =>
      by_cases hc : p c = true
      · by_cases hcx : c = x
        · subst hcx
          simp [escapeIn, hc, replaceFrom, ih]
        · -- the escape of another character stays, and so does that character
          have hce : c ≠ e := by
            rintro rfl
            rw [hc] at he
            cases he
          simp only [escapeIn, hc, if_true]
          rw [replaceFrom_cons_of_ne (by simpa using hcx),
            replaceFrom_cons_of_ne fun h => absurd h hce, ih]
          simp [hcx]
      · simp only [escapeIn, hc]
        rw [if_neg (by simp), replaceFrom_cons_of_ne fun _ => head?_escapeIn_ne hx hne cs, ih]
        simp

end Text

/-! ### Delimiters of one character -/

/-- Two delimiters and an escape: three different characters, none of them white space. -/
structure Symbols where
  opening : Char
  closing : Char
  escape : Char
  opening_ne_closing : opening ≠ closing
  opening_ne_escape : opening ≠ escape
  closing_ne_escape : closing ≠ escape
  opening_solid : isBlank opening = false
  closing_solid : isBlank closing = false
  escape_solid : isBlank escape = false

namespace Symbols

variable (s : Symbols)

def delimiters : Delimiters := ⟨[s.opening], [s.closing], [s.escape]⟩

def isDelimiter (c : Char) : Bool := c == s.opening || c == s.closing

/-- A text with the escape written before every delimiter. -/
def protect (t : Text) : Text := escapeIn s.escape s.isDelimiter t

theorem isDelimiter_opening : s.isDelimiter s.opening = true := by simp [isDelimiter]

theorem isDelimiter_escape : s.isDelimiter s.escape = false := by
  simp [isDelimiter, s.opening_ne_escape.symm, s.closing_ne_escape.symm]

theorem solid_of_isDelimiter {c : Char} (h : s.isDelimiter c = true) : isBlank c = false := by
  simp only [isDelimiter, Bool.or_eq_true, beq_iff_eq] at h
  rcases h with rfl | rfl
  · exact s.opening_solid
  · exact s.closing_solid

theorem isDelimiter_of_isBlank {c : Char} (h : isBlank c = true) : s.isDelimiter c = false := by
  by_contra hc
  have := s.solid_of_isDelimiter (by simpa using hc)
  rw [h] at this
  cases this

/-- **Taking the escapes away gives the text back.** -/
theorem unescape_protect (t : Text) : s.delimiters.unescape (s.protect t) = t := by
  have hclosing : (s.isDelimiter s.closing && s.closing != s.opening) = true := by
    simp [isDelimiter, s.opening_ne_closing.symm]
  have hescape : (s.isDelimiter s.escape && s.escape != s.opening) = false := by
    simp [s.isDelimiter_escape]
  unfold Delimiters.unescape protect
  calc replaceAll [s.escape, s.closing] [s.closing]
        (replaceAll [s.escape, s.opening] [s.opening] (escapeIn s.escape s.isDelimiter t))
      = replaceAll [s.escape, s.closing] [s.closing]
          (escapeIn s.escape (fun c => s.isDelimiter c && c != s.opening) t) := by
        rw [replaceAll_escapeIn s.isDelimiter_opening s.isDelimiter_escape]
    _ = escapeIn s.escape (fun c => s.isDelimiter c && c != s.opening && c != s.closing) t :=
        replaceAll_escapeIn hclosing hescape t
    _ = t := by
        refine escapeIn_of_free fun c _ => ?_
        by_cases ho : c = s.opening
        · simp [ho]
        · by_cases hk : c = s.closing
          · simp [hk]
          · simp [isDelimiter, ho, hk]

theorem protected_protect (t : Text) : ∀ last : Option Char,
    Segment.Protected s.delimiters s.opening last (s.protect t) := by
  unfold protect
  induction t with
  | nil => exact fun _ => trivial
  | cons c cs ih =>
      intro last
      by_cases hc : s.isDelimiter c = true
      · simp only [escapeIn, hc, if_true]
        refine ⟨fun h => absurd h s.opening_ne_escape.symm, fun _ => ?_, ih _⟩
        simp [Delimiters.protectedBy, delimiters]
      · simp only [escapeIn, hc]
        refine ⟨fun h => absurd (h ▸ s.isDelimiter_opening) hc, ih _⟩

/-- A protected text holds no reference, and neither does what stands behind its indentation. -/
theorem quiet_protect (t : Text) :
    Segment.Quiet (Segment.tokenize s.delimiters ((s.protect t).dropWhile isIndent)) := by
  have hindent : ∀ c, isBlank c = false → isIndent c = false := by
    intro c hc
    by_contra h
    simp only [isIndent, Bool.not_eq_false, Bool.or_eq_true, beq_iff_eq] at h
    rcases h with rfl | rfl <;> exact absurd hc (by decide)
  unfold protect
  rw [dropWhile_escapeIn (hindent _ s.escape_solid)
    fun c hc => hindent c (s.solid_of_isDelimiter hc)]
  exact Segment.quiet_of_protected rfl (s.protected_protect _ none)

end Symbols

end Literate
