import Literate.Text.Blank

/-! # Numbers in texts

Hexadecimal digits, and whole numbers as people write them into settings: a sign, digits with single
underscores between them, and a fraction of zeros. -/

namespace Literate.Text

def hexValue? (c : Char) : Option Nat :=
  if c.isDigit then some (c.toNat - 48)
  else if 'a' ≤ c && c ≤ 'f' then some (c.toNat - 87)
  else if 'A' ≤ c && c ≤ 'F' then some (c.toNat - 55)
  else none

/-- The number that hexadecimal digits denote. -/
def hexNumber? (digits : Text) : Option Nat :=
  digits.foldlM (fun n c => (hexValue? c).map (16 * n + ·)) 0

def decimalNumber (digits : Text) : Nat :=
  digits.foldl (fun n c => 10 * n + (c.toNat - 48)) 0

def digitLimit : Nat := 4300

/-- Zeros, and the underscores among them. -/
def isLeading (c : Char) : Bool := c == '0' || c == '_'

/-- A number that starts with a digit, without its leading zeros; one stays if no other digit follows.
A sign may stand behind the zeros. -/
def significant? (t : Text) : Option Text :=
  if t.head? = some '0' then
    let leading := t.takeWhile isLeading
    match t.dropWhile isLeading with
    | [] => some (leading.drop (leading.length - 1))
    | '.' :: rest => some (leading.drop (leading.length - 1) ++ '.' :: rest)
    | c :: rest => if c.isDigit || c == '-' then some (c :: rest) else none
  else if t.head?.any Char.isDigit then some t
  else none

def withoutFraction (t : Text) : Text :=
  match cut? ['.'] t with
  | some (whole, fraction) => if !fraction.isEmpty && fraction.all (· == '0') then whole else t
  | none => t

/-- A number without the underscores in it, none of which may stand at an end or beside another. -/
def withoutUnderscores (t : Text) : Text :=
  let groups := splitAtChar '_' t
  if groups.all (!·.isEmpty) then groups.flatten else t

/-- The number that decimal digits denote, if no zero leads and they are not more than `room`. -/
def plainNumber? (room : Nat) (digits : Text) : Option Nat :=
  if digits.isEmpty || !digits.all Char.isDigit || room < digits.length then none
  else if digits.head? = some '0' && 1 < digits.length then none
  else some (decimalNumber digits)

/-- The integer that plain digits denote, with a minus before them if it is negative. -/
def plainInteger? : Text → Option Int
  | '-' :: digits => (plainNumber? (digitLimit - 1) digits).map fun n => -(n : Int)
  | digits => (plainNumber? digitLimit digits).map Int.ofNat

/-- Why a text is no whole number. -/
inductive NumberFault where
  | malformed
  | tooLong
deriving DecidableEq, Repr

/-- The white space that may stand around a number: no information separators. -/
def isMargin (c : Char) : Bool := isBlank c && !(0x1C ≤ c.toNat && c.toNat ≤ 0x1F)

/-- Whether a text starts with more digits than are read. -/
def startsTooLong (t : Text) : Bool :=
  let digits := if t.head? = some '-' then t.tail else t
  !digits.head?.all (· == '0') && digitLimit < t.length - (digits.dropWhile Char.isDigit).length

/-- A whole number, with white space around it and a sign before it allowed. -/
def wholeNumber (t : Text) : Except NumberFault Int :=
  let body? :=
    match trimEnd isMargin (trimStart isMargin t) with
    | '-' :: rest => (significant? rest).map ('-' :: ·)
    | '+' :: rest => significant? rest
    | rest => significant? rest
  if startsTooLong t then .error .tooLong
  else
    match body?.bind fun body => plainInteger? (withoutUnderscores (withoutFraction body)) with
    | some n => .ok n
    | none => .error .malformed

end Literate.Text
