import Literate.Text.Basic

/-! # Patterns

A pattern says what a piece of a document looks like. It is tried at a point of the document, and of the
pieces that it matches the first one is taken with which whatever is tried behind it succeeds too: a
repetition is as long as possible and gives characters back one at a time, and the first of two
alternatives comes before the second. So a pattern is a search for a piece that leads to a result
(`Pattern.read`), and what it finds is always the beginning of the text at the point
(`Pattern.of_read_eq_some`). -/

namespace Literate.Highlight

/-- A point in a document: the character before it, if there is one, and the text from there on. -/
structure Point where
  last : Option Char := none
  rest : Text
deriving DecidableEq

namespace Point

def startsLine (here : Point) : Bool := here.last.all (· == '\n')

/-- The point behind a piece of the text. -/
def after (here : Point) (taken : Text) : Point :=
  ⟨taken.getLast?.or here.last, here.rest.drop taken.length⟩

@[simp] theorem rest_after (here : Point) (taken : Text) :
    (here.after taken).rest = here.rest.drop taken.length := rfl

end Point

/-- What a piece of a document looks like. -/
inductive Pattern where
  /-- Nothing. -/
  | nothing
  /-- The start of a line, where nothing is taken. -/
  | lineStart
  /-- One character of a class. -/
  | one (p : Char → Bool)
  /-- Any number of characters of a class. -/
  | many (p : Char → Bool)
  /-- One pattern after another. -/
  | both (first second : Pattern)
  /-- One of two patterns, preferably the first. -/
  | either (first second : Pattern)

namespace Pattern

variable {α : Type}

def char (c : Char) : Pattern := one (· == c)

/-- At least one character of a class. -/
def oneOrMore (p : Char → Bool) : Pattern := both (one p) (many p)

def optional (p : Pattern) : Pattern := either p nothing

def word (t : String) : Pattern := t.toList.foldr (fun c rest => both (char c) rest) nothing

/-- At most so many characters of a class. -/
def upTo (p : Char → Bool) : Nat → Pattern
  | 0 => nothing
  | n + 1 => optional (both (one p) (upTo p n))

/-- The first success among the beginnings of a text, the longest tried first. -/
def longestFirst (k : Text → Option α) : Text → Option α
  | [] => k []
  | c :: cs => longestFirst (fun taken => k (c :: taken)) cs <|> k []

/-- The first piece at a point that a pattern matches and that leads to a result. -/
def read : Pattern → (Text → Option α) → Point → Option α
  | nothing, k, _ => k []
  | lineStart, k, here => if here.startsLine then k [] else none
  | one p, k, here =>
    match here.rest with
    | c :: _ => if p c then k [c] else none
    | [] => none
  | many p, k, here => longestFirst k (here.rest.takeWhile p)
  | both a b, k, here =>
    a.read (fun s => b.read (fun t => k (s ++ t)) (here.after s)) here
  | either a b, k, here => a.read k here <|> b.read k here

/-- The least number of characters that a pattern takes. -/
def shortest : Pattern → Nat
  | nothing | lineStart | many _ => 0
  | one _ => 1
  | both a b => a.shortest + b.shortest
  | either a b => min a.shortest b.shortest

theorem of_orElse_eq_some {a b : Option α} {x : α} (h : (a <|> b) = some x) :
    a = some x ∨ b = some x := by
  cases a with
  | none => exact .inr h
  | some y => exact .inl h

/-- A search among the beginnings of a text finds one of them. -/
theorem of_longestFirst_eq_some {k : Text → Option α} {t : Text} {x : α}
    (h : longestFirst k t = some x) : ∃ taken, taken <+: t ∧ k taken = some x := by
  induction t generalizing k with
  | nil => exact ⟨[], List.prefix_rfl, h⟩
  | cons c cs ih =>
    rcases of_orElse_eq_some h with h | h
    · obtain ⟨taken, htaken, hk⟩ := ih h
      exact ⟨c :: taken, (List.prefix_cons_inj c).2 htaken, hk⟩
    · exact ⟨[], List.nil_prefix, h⟩

/-- What a pattern finds is the beginning of the text, and as long as the pattern asks for. -/
theorem of_read_eq_some {p : Pattern} {k : Text → Option α} {here : Point} {x : α}
    (h : p.read k here = some x) :
    ∃ taken, taken <+: here.rest ∧ p.shortest ≤ taken.length ∧ k taken = some x := by
  induction p generalizing k here with
  | nothing => exact ⟨[], List.nil_prefix, Nat.le_refl _, h⟩
  | lineStart =>
    simp only [read] at h
    split at h
    · exact ⟨[], List.nil_prefix, Nat.le_refl _, h⟩
    · cases h
  | one p =>
    simp only [read] at h
    split at h
    · next c cs hrest =>
      split at h
      · exact ⟨[c], by simp [hrest], Nat.le_refl _, h⟩
      · cases h
    · cases h
  | many p =>
    obtain ⟨taken, htaken, hk⟩ := of_longestFirst_eq_some h
    exact ⟨taken, htaken.trans (List.takeWhile_prefix p), Nat.zero_le _, hk⟩
  | both a b iha ihb =>
    obtain ⟨s, ⟨u, hu⟩, hshort, h⟩ := iha h
    obtain ⟨t, ⟨v, hv⟩, hshort', hk⟩ := ihb h
    rw [Point.rest_after, ← hu, List.drop_left] at hv
    refine ⟨s ++ t, ⟨v, by rw [← hu, ← hv, List.append_assoc]⟩, ?_, hk⟩
    simp only [shortest, List.length_append]
    omega
  | either a b iha ihb =>
    rcases of_orElse_eq_some h with h | h
    · obtain ⟨taken, htaken, hshort, hk⟩ := iha h
      exact ⟨taken, htaken, Nat.le_trans (Nat.min_le_left ..) hshort, hk⟩
    · obtain ⟨taken, htaken, hshort, hk⟩ := ihb h
      exact ⟨taken, htaken, Nat.le_trans (Nat.min_le_right ..) hshort, hk⟩

/-- The texts of patterns that match one after the other from a point on. -/
def readAll : List Pattern → Point → Option (List Text)
  | [], _ => some []
  | p :: rest, here => p.read (fun t => (readAll rest (here.after t)).map (t :: ·)) here

/-- The texts are the beginning of the text at the point, and not empty if one of the patterns takes
something. -/
theorem of_readAll_eq_some {patterns : List Pattern} {here : Point} {texts : List Text}
    (h : readAll patterns here = some texts) :
    texts.flatten <+: here.rest ∧
      ((patterns.any fun p => decide (0 < p.shortest)) = true → texts.flatten ≠ []) := by
  induction patterns generalizing here texts with
  | nil =>
    cases h
    exact ⟨List.nil_prefix, nofun⟩
  | cons p rest ih =>
    obtain ⟨t, ⟨u, hu⟩, hshort, h⟩ := of_read_eq_some h
    obtain ⟨others, hothers, rfl⟩ := Option.map_eq_some_iff.1 h
    obtain ⟨⟨v, hv⟩, hne⟩ := ih hothers
    rw [Point.rest_after, ← hu, List.drop_left] at hv
    refine ⟨⟨v, by rw [List.flatten_cons, List.append_assoc, hv, hu]⟩, fun hany hempty => ?_⟩
    rw [List.flatten_cons, List.append_eq_nil_iff] at hempty
    rw [List.any_cons, Bool.or_eq_true, decide_eq_true_eq] at hany
    rcases hany with hpos | hany
    · rw [hempty.1] at hshort
      exact absurd hshort (Nat.not_le_of_lt hpos)
    · exact hne hany hempty.2

end Pattern
end Literate.Highlight
