import Literate.Text.Basic

/-! # Blank characters

The characters that count as white space: the ASCII controls from tab to carriage return, the four
information separators, the space, and the separators of Unicode. Zero-width characters are not
blank. -/

namespace Literate.Text

def isBlank (c : Char) : Bool :=
  let n := c.toNat
  (0x09 ≤ n && n ≤ 0x0D) || (0x1C ≤ n && n ≤ 0x20) || n == 0x85 || n == 0xA0 || n == 0x1680 ||
    (0x2000 ≤ n && n ≤ 0x200A) || n == 0x2028 || n == 0x2029 || n == 0x202F || n == 0x205F ||
    n == 0x3000

theorem isBlank_of_isIndent {c : Char} (h : isIndent c = true) : isBlank c = true := by
  simp only [isIndent, Bool.or_eq_true, beq_iff_eq] at h
  rcases h with rfl | rfl <;> decide

/-- Drop the white space at the front. -/
def stripStart (t : Text) : Text := trimStart isBlank t

def stripEnd (t : Text) : Text := trimEnd isBlank t

/-- Drop the white space at both ends. -/
def strip (t : Text) : Text := stripEnd (stripStart t)

/-- The maximal runs of characters that are not blank. -/
def words (t : Text) : List Text :=
  go t
where
  go : Text → List Text
    | [] => []
    | c :: cs =>
      if isBlank c then go cs
      else
        match cs with
        | [] => [[c]]
        | d :: _ =>
          if isBlank d then [c] :: go cs
          else
            match go cs with
            | [] => [[c]]
            | word :: rest => (c :: word) :: rest

end Literate.Text
