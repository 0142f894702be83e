import Literate.Text.Number

/-! # Structured data

Settings are given as data: nothing, truth values, numbers, texts, lists and objects. Data can be read
from JSON text. A number with a fraction or an exponent is no whole number; that it is one of those is
all that is kept of it. -/

namespace Literate

/-- Structured data. -/
inductive Datum where
  | null
  | bool (b : Bool)
  | int (n : Int)
  | real
  | text (t : Text)
  | list (items : List Datum)
  | object (entries : List (Text × Datum))
deriving Inhabited

namespace Datum

open Text

def isNull : Datum → Bool
  | null => true
  | _ => false

/-- Skip the blanks that may stand between the parts of JSON text. -/
def skip (t : Text) : Text := t.dropWhile fun c => c == ' ' || c == '\t' || c == '\n' || c == '\r'

/-! ### Numbers -/

def digitRun? (t : Text) : Option (Text × Text) :=
  match t.takeWhile Char.isDigit with
  | [] => none
  | digits => some (digits, t.dropWhile Char.isDigit)

/-- The whole part of a number: a single zero, or digits that do not start with one. -/
def wholePart? (t : Text) : Option (Text × Text) :=
  match t with
  | '0' :: rest => some (['0'], rest)
  | t => digitRun? t

def afterFraction? (t : Text) : Option Text :=
  match t with
  | '.' :: rest => (digitRun? rest).map Prod.snd
  | _ => none

def afterExponent? (t : Text) : Option Text :=
  match t with
  | c :: rest =>
    if c == 'e' || c == 'E' then
      match rest with
      | s :: digits =>
        (digitRun? (if s == '+' || s == '-' then digits else rest)).map Prod.snd
      | [] => none
    else none
  | [] => none

/-- A number without a sign, and the rest. -/
def unsigned? (t : Text) : Option (Datum × Text) := do
  let (digits, rest) ← wholePart? t
  let whole := afterFraction? rest
  let short := whole.getD rest
  let last := afterExponent? short
  if whole.isSome || last.isSome then some (real, last.getD short)
  else if digitLimit < digits.length then none
  else some (int (decimalNumber digits), rest)

/-- The same number with the other sign. -/
def negate : Datum → Datum
  | int n => int (-n)
  | d => d

/-! ### Texts -/

/-- The character that a letter stands for behind a backslash. -/
def escapeCode? (c : Char) : Option Nat :=
  match c with
  | '"' => some 0x22
  | '\\' => some 0x5C
  | '/' => some 0x2F
  | 'b' => some 0x08
  | 'f' => some 0x0C
  | 'n' => some 0x0A
  | 'r' => some 0x0D
  | 't' => some 0x09
  | _ => none

/-- The codes of a text up to its closing quote, and the rest. -/
def codes? : Text → Option (List Nat × Text)
  | [] => none
  | '"' :: rest => some ([], rest)
  | '\\' :: 'u' :: a :: b :: c :: d :: rest => do
    let code ← hexNumber? [a, b, c, d]
    let (codes, rest) ← codes? rest
    some (code :: codes, rest)
  | '\\' :: c :: rest => do
    let code ← escapeCode? c
    let (codes, rest) ← codes? rest
    some (code :: codes, rest)
  | c :: rest =>
    if c.toNat < 0x20 then none
    else do
      let (codes, rest) ← codes? rest
      some (c.toNat :: codes, rest)

/-- The characters of codes; the two halves of a pair make one character. -/
def characters : List Nat → Text
  | [] => []
  | [code] => [Char.ofNat code]
  | high :: low :: rest =>
    if 0xD800 ≤ high && high < 0xDC00 && 0xDC00 ≤ low && low < 0xE000 then
      Char.ofNat (0x10000 + (high - 0xD800) * 0x400 + (low - 0xDC00)) :: characters rest
    else Char.ofNat high :: characters (low :: rest)

/-- A text after its opening quote, and the rest. -/
def quoted? (t : Text) : Option (Text × Text) :=
  (codes? t).map fun (codes, rest) => (characters codes, rest)

/-! ### Values -/

def words : List (Text × Datum) :=
  [("null".toList, null), ("true".toList, bool true), ("false".toList, bool false),
   ("NaN".toList, real), ("Infinity".toList, real), ("-Infinity".toList, real)]

def word? (t : Text) : Option (Datum × Text) :=
  words.firstM fun (word, d) => (after? word t).map fun rest => (d, rest)

mutual

/-- A value, and the rest. The first argument bounds the nesting of the reading. -/
def value? : Nat → Text → Option (Datum × Text)
  | 0, _ => none
  | fuel + 1, t =>
    match word? t with
    | some found => some found
    | none =>
      match t with
      | '"' :: rest => (quoted? rest).map fun (t, rest) => (text t, rest)
      | '[' :: rest =>
        match skip rest with
        | ']' :: rest => some (list [], rest)
        | rest => (items? fuel rest).map fun (items, rest) => (list items, rest)
      | '\x7b' :: rest =>
        match skip rest with
        | '\x7d' :: rest => some (object [], rest)
        | rest => (entries? fuel rest).map fun (entries, rest) => (object entries, rest)
      | '-' :: rest => (unsigned? rest).map fun (d, rest) => (negate d, rest)
      | t => unsigned? t

/-- The items of a list up to its closing bracket, and the rest. -/
def items? : Nat → Text → Option (List Datum × Text)
  | 0, _ => none
  | fuel + 1, t => do
    let (item, rest) ← value? fuel t
    match skip rest with
    | ']' :: rest => some ([item], rest)
    | ',' :: rest =>
      let (items, rest) ← items? fuel (skip rest)
      some (item :: items, rest)
    | _ => none

/-- The entries of an object up to its closing brace, and the rest. -/
def entries? : Nat → Text → Option (List (Text × Datum) × Text)
  | 0, _ => none
  | fuel + 1, t =>
    match t with
    | '"' :: rest => do
      let (key, rest) ← quoted? rest
      match skip rest with
      | ':' :: rest =>
        let (d, rest) ← value? fuel (skip rest)
        match skip rest with
        | '\x7d' :: rest => some ([(key, d)], rest)
        | ',' :: rest =>
          let (entries, rest) ← entries? fuel (skip rest)
          some ((key, d) :: entries, rest)
        | _ => none
      | _ => none
    | _ => none

end

/-- The data that JSON text denotes. Reading one value takes at most two steps per character. -/
def ofJson? (t : Text) : Option Datum := do
  let (d, rest) ← value? (2 * t.length + 2) (skip t)
  if (skip rest).isEmpty then some d else none

end Datum
end Literate
