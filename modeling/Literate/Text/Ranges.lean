/-! # Code point ranges

Classes of characters above ASCII are kept as sorted lists of closed ranges of code points. -/

namespace Literate.Text

/-- Whether `n` lies in one of the sorted, closed ranges. -/
def inRanges (n : Nat) : List (Nat × Nat) → Bool
  | [] => false
  | (lo, hi) :: rest => lo ≤ n && (n ≤ hi || inRanges n rest)

end Literate.Text
