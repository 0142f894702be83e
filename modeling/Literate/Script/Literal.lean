import Literate.Script.Rule
import Literate.Text.Point

/-! # Numbers and texts of extension code

The values that numbers and texts stand for, and the numbers and texts that stand for none. A text may
name a code point that is no character. An escape by the name of a character is always taken for an
unknown name. -/

namespace Literate.Script

open Text

/-! ### Numbers -/

/-- Whether a number is written as decimal digits only. -/
def isDecimal (written : Text) : Bool := written.all fun c => c.isDigit || c == '_'

def decimalValue? (written : Text) : Option Int :=
  if isDecimal written then some (decimalNumber (written.filter Char.isDigit)) else none

def tooManyDigits (count : Nat) : String :=
  s!"Exceeds the limit ({digitLimit} digits) for integer string conversion: value has {count} digits; " ++
    "use sys.set_int_max_str_digits() to increase the limit - " ++
    "Consider hexadecimal for huge integer literals to avoid decimal conversion limits."

/-- A decimal number must not have too many digits. -/
def checkNumber : Complaint := fun _ trees =>
  match trees with
  | .token t :: _ =>
    let count := (t.written.filter Char.isDigit).length
    if isDecimal t.written && digitLimit < count then some ⟨tooManyDigits count, t.line, .grammar⟩
    else none
  | _ => none

def isImaginary (written : Text) : Bool := written.getLast?.any fun c => c = 'j' || c = 'J'

/-- The first part of a complex number must be real, the second one imaginary. -/
def checkPart (imaginary : Bool) : Complaint := fun _ trees =>
  match trees with
  | .token t :: _ =>
    if isImaginary t.written = imaginary then none
    else
      let what := if imaginary then "imaginary" else "real"
      some ⟨s!"{what} number required in complex literal", t.line, .grammar⟩
  | _ => none

/-! ### Texts -/

/-- The character that a letter stands for behind a backslash. -/
def escapeChar? (c : Char) : Option Char :=
  match c with
  | 'n' => some '\n'
  | 't' => some '\t'
  | 'r' => some '\r'
  | 'a' => some '\x07'
  | 'b' => some '\x08'
  | 'f' => some '\x0c'
  | 'v' => some '\x0b'
  | '\\' => some '\\'
  | '\x27' => some '\x27'
  | '"' => some '"'
  | _ => none

/-- How many hexadecimal digits follow a letter behind a backslash. -/
def codeWidth? (c : Char) : Option Nat :=
  match c with
  | 'x' => some 2
  | 'u' => some 4
  | 'U' => some 8
  | _ => none

/-- The error for an escape at a position that takes a number of places. -/
def escapeError (position width : Nat) (reason : String) : String :=
  s!"(unicode error) 'unicodeescape' codec can't decode bytes in position {position}-" ++
    s!"{position + width - 1}: {reason}"

/-- The code point of an escape with hexadecimal digits; `body` stands behind its letter. -/
def codeEscape (position : Nat) (letter : Char) (width : Nat) (body : Text) : Except String Point :=
  let digits := (body.take width).takeWhile fun c => (hexValue? c).isSome
  if digits.length < width then
    let shape := String.ofList ('\\' :: letter :: List.replicate width 'X')
    .error (escapeError position (2 + digits.length) s!"truncated {shape} escape")
  else
    let code := (hexNumber? digits).getD 0
    if code < 0x110000 then .ok (.ofCode code)
    else .error (escapeError position (2 + width) "illegal Unicode character")

/-- How many places a character takes where positions in a text are counted. -/
def places (c : Char) : Nat := if c.toNat < 128 then 1 else 10

/-- How many places a text takes; a backslash takes more of them before a character above ASCII. -/
def allPlaces : Text → Nat
  | '\\' :: c :: cs => (if c.toNat < 128 then 1 else 6) + allPlaces (c :: cs)
  | c :: cs => places c + allPlaces cs
  | [] => 0

/-- The error for an escape by a character's name; `body` stands behind its letter. -/
def nameEscape (position : Nat) (body : Text) : String :=
  match body with
  | '\x7b' :: cs =>
    let name := cs.takeWhile (· != '\x7d')
    if name.isEmpty || name.length = cs.length then
      escapeError position (3 + allPlaces name) "malformed \\N character escape"
    else escapeError position (4 + allPlaces name) "unknown Unicode character name"
  | _ => escapeError position 2 "malformed \\N character escape"

/-- The code points that the inside of quotes stands for, given the position of its start. The first
`skip` characters belong to an escape that is already read. -/
def unescape : Nat → Nat → Text → Except String (List Point)
  | _, _, [] => .ok []
  | skip + 1, position, c :: cs => unescape skip (position + places c) cs
  | 0, position, c :: cs =>
    if c ≠ '\\' then (unescape 0 (position + places c) cs).map (.char c :: ·)
    else
      match cs with
      | [] => .ok [.char c]
      | '\n' :: _ => unescape 1 (position + 1) cs
      | d :: ds =>
        match escapeChar? d, codeWidth? d with
        | some e, _ => (unescape 1 (position + 1) cs).map (.char e :: ·)
        | none, some width =>
          match codeEscape position d width ds with
          | .ok e => (unescape (width + 1) (position + 1) cs).map (e :: ·)
          | .error message => .error message
        | none, none =>
          let octal := (cs.take 3).takeWhile fun e => '0' ≤ e && e ≤ '7'
          if !octal.isEmpty then
            let code := octal.foldl (fun n e => 8 * n + (e.toNat - 48)) 0
            (unescape octal.length (position + 1) cs).map (.char (Char.ofNat code) :: ·)
          else if d = 'N' then .error (nameEscape position ds)
          else (unescape 0 (position + if d.toNat < 128 then 1 else 6) cs).map (.char c :: ·)

/-- What is wrong with the inside of the quotes of bytes, given the position of its start. -/
def bytesProblem? : Nat → Text → Option String
  | position, '\\' :: 'x' :: cs =>
    if ((cs.take 2).takeWhile fun c => (hexValue? c).isSome).length < 2 then
      some s!"(value error) invalid \\x escape at position {position}"
    else bytesProblem? (position + 2) cs
  | position, '\\' :: _ :: cs => bytesProblem? (position + 2) cs
  | position, _ :: cs => bytesProblem? (position + 1) cs
  | _, [] => none

/-- The marks before the quote of a text, in lower case. -/
def marks (written : Text) : Text := (written.takeWhile Char.isAlpha).map Char.toLower

def inside (written : Text) : Text :=
  let quoted := written.dropWhile Char.isAlpha
  let quote := quoted.take 1
  let size := if 6 ≤ quoted.length && quoted.take 3 = quote ++ quote ++ quote then 3 else 1
  (quoted.drop size).take (quoted.length - 2 * size)

/-- The code points that a written text stands for; there are none for bytes and templates. -/
def textValue (written : Text) : Except String (Option (List Point)) :=
  if (marks written).any fun c => c == 'b' || c == 'f' then .ok none
  else if (marks written).elem 'r' then .ok (some ((inside written).map .char))
  else (unescape 0 0 (inside written)).map some

end Literate.Script
