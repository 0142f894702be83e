/-! # Texts

Document text is a list of characters, so that every reader and writer of the library goes by
recursion on it. This module holds the searches and cuts that do not depend on what the characters
mean: cutting at an occurrence of a pattern, replacing every occurrence, splitting at a character,
and trimming the ends. -/

namespace Literate

abbrev Text := List Char

namespace Text

def str (t : Text) : String := String.ofList t

/-! ### Occurrences of a pattern -/

/-- What follows a pattern that a text starts with. -/
def after? : Text → Text → Option Text
  | [], t => some t
  | _ :: _, [] => none
  | p :: ps, c :: cs => if p = c then after? ps cs else none

theorem after?_eq_some_iff {pattern t rest : Text} :
    after? pattern t = some rest ↔ t = pattern ++ rest := by
  induction pattern generalizing t with
  | nil => simp [after?]
  | cons p ps ih =>
    cases t with
    | nil => simp [after?]
    | cons c cs =>
      by_cases h : p = c
      · simp [after?, h, ih]
      · simp [after?, h, Ne.symm h]

/-- Cut a text at the first occurrence of a pattern: what stands before it and what follows it. -/
def cut? (pattern : Text) : Text → Option (Text × Text)
  | [] => if pattern.isEmpty then some ([], []) else none
  | c :: cs =>
    match after? pattern (c :: cs) with
    | some rest => some ([], rest)
    | none => (cut? pattern cs).map fun (before, after) => (c :: before, after)

theorem eq_append_of_cut? {pattern t before after : Text}
    (h : cut? pattern t = some (before, after)) : t = before ++ (pattern ++ after) := by
  induction t generalizing before with
  | nil =>
    simp only [cut?] at h
    split at h
    · simp_all
    · simp at h
  | cons c cs ih =>
    simp only [cut?] at h
    split at h
    · next rest hrest =>
      simp only [Option.some.injEq, Prod.mk.injEq] at h
      obtain ⟨rfl, rfl⟩ := h
      simpa using after?_eq_some_iff.1 hrest
    · obtain ⟨⟨b, a⟩, hcut, heq⟩ := Option.map_eq_some_iff.1 h
      simp only [Prod.mk.injEq] at heq
      obtain ⟨rfl, rfl⟩ := heq
      simp [ih hcut]

def cutLast? (pattern : Text) : Text → Option (Text × Text)
  | [] => if pattern.isEmpty then some ([], []) else none
  | c :: cs =>
    match cutLast? pattern cs with
    | some (before, after) => some (c :: before, after)
    | none => (after? pattern (c :: cs)).map fun rest => ([], rest)

def occursIn (pattern t : Text) : Bool := (cut? pattern t).isSome

/-- Replace occurrences of `old` from left to right; the first `skip` members belong to an occurrence
that is already replaced. -/
def replaceFrom {α : Type} [BEq α] (old new : List α) : Nat → List α → List α
  | _, [] => []
  | skip + 1, _ :: cs => replaceFrom old new skip cs
  | 0, c :: cs =>
    if old.isPrefixOf (c :: cs) then new ++ replaceFrom old new (old.length - 1) cs
    else c :: replaceFrom old new 0 cs

/-- Replace every occurrence of the non-empty list `old`, from left to right, by `new`. -/
def replaceAll {α : Type} [BEq α] (old new items : List α) : List α :=
  if old.isEmpty then items else replaceFrom old new 0 items

/-! ### Splitting and joining -/

/-- The parts of a text between occurrences of a separating character; never an empty list. -/
def splitAtChar (sep : Char) : Text → List Text
  | [] => [[]]
  | c :: cs =>
    if c = sep then [] :: splitAtChar sep cs
    else
      match splitAtChar sep cs with
      | [] => [[c]]
      | part :: parts => (c :: part) :: parts

/-- The texts one after the other with `sep` between them. -/
def joinWith (sep : Text) (parts : List Text) : Text := sep.intercalate parts

/-! ### Trimming -/

/-- Drop the longest run of characters in a class from the front. -/
def trimStart (p : Char → Bool) (t : Text) : Text := t.dropWhile p

/-- Drop the longest run of characters in a class from the end. -/
def trimEnd (p : Char → Bool) (t : Text) : Text := (t.reverse.dropWhile p).reverse

/-- Drop one given character from the end, if it stands there. -/
def dropLastIf (c : Char) (t : Text) : Text :=
  if t.getLast? = some c then t.dropLast else t

/-- Spaces and tabs, the characters of an indentation. -/
def isIndent (c : Char) : Bool := c == ' ' || c == '\t'

end Text
end Literate
