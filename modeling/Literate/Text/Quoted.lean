import Literate.Text.Basic
import Literate.Text.Printable

/-! # Quoted texts

How a text is shown inside a message: between single quotes, or double quotes if it holds a single
quote and no double quote; backslashes, the quote itself and unprintable characters are escaped. -/

namespace Literate.Text

/-- The lower case hexadecimal digits of `n`, at least `width` of them. -/
def hexDigits (width n : Nat) : Text :=
  let digits := Nat.toDigits 16 n
  List.replicate (width - digits.length) '0' ++ digits

/-- A code point as a backslash escape of the shortest of three widths. -/
def codeEscape (n : Nat) : Text :=
  if n < 0x100 then '\\' :: 'x' :: hexDigits 2 n
  else if n < 0x10000 then '\\' :: 'u' :: hexDigits 4 n
  else '\\' :: 'U' :: hexDigits 8 n

/-- A character between quotes of the given kind. -/
def quotedChar (quote c : Char) : Text :=
  if c = quote || c = '\\' then ['\\', c]
  else if c = '\n' then ['\\', 'n']
  else if c = '\r' then ['\\', 'r']
  else if c = '\t' then ['\\', 't']
  else if isPrintable c then [c]
  else codeEscape c.toNat

def quoteFor (t : Text) : Char := if t.elem '\x27' && !t.elem '"' then '"' else '\x27'

def quoted (t : Text) : Text := quoteFor t :: t.flatMap (quotedChar (quoteFor t)) ++ [quoteFor t]

end Literate.Text
