import Literate.Text.Basic

/-! # Splitting a text into lines

Every line keeps its terminator. Two rules are in use: the lines of a file end at a line feed, a
carriage return, or both together; the lines of a text in memory end at the other line boundaries of
Unicode too. The lines put together again are always the text. -/

namespace Literate.Text

/-- The characters that end a line of a file. -/
def isNewline (c : Char) : Bool := c == '\n' || c == '\r'

/-- The characters that end a line of a text in memory: also the vertical tab, the form feed, three
information separators, the next-line control and the two Unicode separators. -/
def isLineBoundary (c : Char) : Bool :=
  let n := c.toNat
  (0x0A ≤ n && n ≤ 0x0D) || (0x1C ≤ n && n ≤ 0x1E) || n == 0x85 || n == 0x2028 || n == 0x2029

/-- Put a character before the first line. -/
def pushFront (c : Char) : List Text → List Text
  | [] => [[c]]
  | line :: rest => (c :: line) :: rest

/-- The lines of a text, each with its terminator; a carriage return and the line feed after it are
one terminator. -/
def splitLines (ends : Char → Bool) : Text → List Text
  | [] => []
  | c :: cs =>
    if ends c && !(c == '\r' && cs.head? == some '\n') then [c] :: splitLines ends cs
    else pushFront c (splitLines ends cs)

/-- Carriage returns, with a line feed after them or without, become line feeds. -/
def normalizeNewlines : Text → Text
  | [] => []
  | c :: cs =>
    if c = '\r' then
      if cs.head? = some '\n' then normalizeNewlines cs else '\n' :: normalizeNewlines cs
    else c :: normalizeNewlines cs

end Literate.Text
