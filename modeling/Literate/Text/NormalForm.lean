import Literate.Text.FormTable

/-! # The normal form of identifiers

Two identifiers are the same if they have the same normal form: characters that are forms of others
are replaced by them, combining marks stand in the order of their classes, and a letter and a mark
that make a character are replaced by it. -/

namespace Literate.Text

/-! ### Taking characters apart -/

def formTables : List (List (Nat × Nat × Nat)) :=
  [letterForms, hangulForms, ideographForms, arabicForms, wideForms, mathForms, ideographForms2]

/-- The tables of letters and marks and the characters they make. -/
def compositionTables : List (List (Nat × Nat × Nat)) :=
  [compositions1, compositions2, compositions3, compositions4]

/-- The character that another one is a form of. -/
def formOf? (n : Nat) : Option Nat :=
  formTables.findSome? fun table =>
    (table.find? fun (first, last, _) => first ≤ n && n ≤ last).map fun (first, _, of) => of + (n - first)

/-- The characters that another one is a form of. -/
def formOfSeveral? (n : Nat) : Option (List Nat) :=
  ((sequenceForms.find? (·.1 = n)).or (arabicSequenceForms.find? (·.1 = n))).map (·.2)

def letterAndMark? (n : Nat) : Option (Nat × Nat) :=
  compositionTables.findSome? fun table =>
    (table.find? fun (_, _, made) => made = n).map fun (letter, mark, _) => (letter, mark)

/-- The first Hangul syllable; syllables are ordered by their two or three letters. -/
def firstSyllable : Nat := 0xAC00

def syllableLetters (n : Nat) : List Nat :=
  let index := n - firstSyllable
  let ending := index % 28
  [0x1100 + index / 588, 0x1161 + index % 588 / 28] ++ if ending = 0 then [] else [0x11A7 + ending]

/-- The characters that a character is made of, with a bound on how often it is taken apart. -/
def takeApart : Nat → Nat → List Nat
  | 0, n => [n]
  | fuel + 1, n =>
    if n < 128 then [n]
    else if firstSyllable ≤ n && n < firstSyllable + 11172 then syllableLetters n
    else
      match formOf? n with
      | some of => [of]
      | none =>
        match formOfSeveral? n with
        | some several => several
        | none =>
          match letterAndMark? n with
          | some (letter, mark) => takeApart fuel letter ++ takeApart fuel mark
          | none => [n]

/-! ### The order of marks -/

/-- The class of a combining mark; other characters have class zero. -/
def markClass (n : Nat) : Nat :=
  ((markClasses.find? fun (first, last, _) => first ≤ n && n ≤ last).map fun (_, _, k) => k).getD 0

/-- Put a character behind others in reverse, before the marks of higher classes. -/
def insertMark (n : Nat) : List Nat → List Nat
  | [] => [n]
  | m :: rest => if markClass n < markClass m && markClass n ≠ 0 then m :: insertMark n rest else n :: m :: rest

def orderMarks (ns : List Nat) : List Nat := (ns.foldl (fun done n => insertMark n done) []).reverse

/-! ### Putting characters together -/

/-- The character that a letter and a mark make. -/
def composed? (letter mark : Nat) : Option Nat :=
  if 0x1100 ≤ letter && letter < 0x1113 && 0x1161 ≤ mark && mark < 0x1176 then
    some (firstSyllable + (letter - 0x1100) * 588 + (mark - 0x1161) * 28)
  else if firstSyllable ≤ letter && letter < firstSyllable + 11172 &&
      (letter - firstSyllable) % 28 = 0 && 0x11A7 < mark && mark < 0x11C3 then
    some (letter + (mark - 0x11A7))
  else
    compositionTables.findSome? fun table =>
      (table.find? fun (l, m, _) => l = letter && m = mark).map fun (_, _, made) => made

/-- Put marks together with the letter before them. `skipped` are the marks since the letter that stay,
in reverse. -/
def putTogether (letter : Nat) (skipped : List Nat) : List Nat → List Nat
  | [] => letter :: skipped.reverse
  | n :: rest =>
    let blocked := skipped.head?.any fun m => markClass n ≤ markClass m
    match if blocked then none else composed? letter n with
    | some made => putTogether made skipped rest
    | none =>
      if markClass n = 0 then letter :: skipped.reverse ++ putTogether n [] rest
      else putTogether letter (n :: skipped) rest

def normalForm (t : Text) : Text :=
  if t.all fun c => c.toNat < 128 then t
  else
    match orderMarks (t.flatMap fun c => takeApart 4 c.toNat) with
    | [] => []
    | n :: rest => (putTogether n [] rest).map Char.ofNat

end Literate.Text
