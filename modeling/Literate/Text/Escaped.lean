import Literate.Text.Quoted

/-! # Escaped texts

The body of a double-quoted literal that denotes a text is made in two passes. The first writes every
character as one or more printable ASCII characters: a backslash is doubled, and what cannot be typed
becomes an escape. The second puts a backslash before every double quote of the whole. -/

namespace Literate.Text

/-- A character in printable ASCII. -/
def encodedChar (c : Char) : Text :=
  if c = '\\' then ['\\', '\\']
  else if c = '\n' then ['\\', 'n']
  else if c = '\r' then ['\\', 'r']
  else if c = '\t' then ['\\', 't']
  else if 32 ≤ c.toNat && c.toNat < 127 then [c]
  else codeEscape c.toNat

def encoded (t : Text) : Text := t.flatMap encodedChar

def escapeQuotes (t : Text) : Text := replaceAll ['"'] ['\\', '"'] t

/-- The body of a double-quoted literal that denotes the text. -/
def escaped (t : Text) : Text := escapeQuotes (encoded t)

end Literate.Text
