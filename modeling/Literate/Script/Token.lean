import Literate.Script.Read
import Literate.Text.Identifier
import Literate.Text.Lines
import Literate.Text.Number
import Literate.Text.Printable

/-! # Tokens of extension code

The text of a program is cut into names, keywords, numbers, texts and symbols. Line ends count
outside brackets only, and so does indentation, which is turned into tokens of its own. What cannot be
read ends the tokens: a program fails on it only when reading gets that far. -/

namespace Literate.Script

open Text

/-- Where cutting a program into tokens ends early. -/
structure Breakage where
  error : ReadError
  /-- Whether the error stands for itself, or depends on how far reading gets. -/
  certain : Bool
  /-- The innermost open bracket and its line. -/
  opened : Option (Char × Nat) := none

/-- How a number is written. -/
inductive NumberKind where
  | decimal
  | imaginary
  | hexadecimal
  | octal
  | binary
deriving DecidableEq

/-- The error for a number that is not written right. -/
def NumberKind.invalid : NumberKind → String
  | decimal => "invalid decimal literal"
  | imaginary => "invalid imaginary literal"
  | hexadecimal => "invalid hexadecimal literal"
  | octal => "invalid octal literal"
  | binary => "invalid binary literal"

/-- The error for a digit that the base of a number does not have. -/
def NumberKind.invalidDigit (kind : NumberKind) (digit : Char) : String :=
  let base := match kind with
    | octal => "octal"
    | binary => "binary"
    | hexadecimal => "hexadecimal"
    | decimal | imaginary => "decimal"
  s!"invalid digit '{digit}' in {base} literal"

/-- What a token is. -/
inductive TokenKind where
  | name
  | keyword
  | symbol
  | number
  | text
  | newline
  | indent
  | dedent
  | finish
  /-- The place where the program cannot be cut any further. -/
  | broken (b : Breakage)

/-- A token as written, its line, and how many brackets are open behind it. -/
structure Token where
  kind : TokenKind
  written : Text := []
  line : Nat
  level : Nat := 0
  /-- Whether the text had to end for the token to end. -/
  atEnd : Bool := false
  /-- How a number is written that a keyword follows without a gap. -/
  joined : Option NumberKind := none

def Token.remark? (t : Token) : Option Remark := t.joined.map fun kind => ⟨t.line, kind.invalid⟩

/-- Whether the last character of a token shows that it ends there. -/
def Token.closesItself (t : Token) : Bool :=
  match t.kind with
  | .text => 3 ≤ (t.written.dropWhile Char.isAlpha).length
  | _ => false

/-- The words that are no names. -/
def keywords : List String :=
  ["False", "None", "True", "and", "as", "assert", "async", "await", "break", "class", "continue",
   "def", "del", "elif", "else", "except", "finally", "for", "from", "global", "if", "import", "in",
   "is", "lambda", "nonlocal", "not", "or", "pass", "raise", "return", "try", "while", "with",
   "yield"]

/-- The symbols of several characters, longer ones first. -/
def symbols : List String :=
  ["**=", "//=", ">>=", "<<=", "...", "==", "!=", "<>", "<=", ">=", "->", ":=", "+=", "-=", "*=",
   "/=", "%=", "&=", "|=", "^=", "@=", "**", "//", "<<", ">>"]

/-- White space inside a line. -/
def isGap (c : Char) : Bool := c == ' ' || c == '\t' || c == '\x0c'

/-- Whether a character may belong to a word; all characters above ASCII may. -/
def isWordChar (c : Char) : Bool := c.isAlphanum || c == '_' || 128 ≤ c.toNat

/-! ### Numbers -/

/-- How the number at the start of a text is written, and what follows it. -/
abbrev NumberEnd := Except String (NumberKind × Text)

/-- The digits of a number after its first, with single underscores between them. -/
def moreDigits : Text → Except String Text
  | '_' :: c :: cs => if c.isDigit then moreDigits cs else .error NumberKind.decimal.invalid
  | ['_'] => .error NumberKind.decimal.invalid
  | c :: cs => if c.isDigit then moreDigits cs else .ok (c :: cs)
  | [] => .ok []

/-- The zeros a number starts with, with single underscores between them. -/
def moreZeros : Text → Except String Text
  | '_' :: c :: cs =>
    if !c.isDigit then .error NumberKind.decimal.invalid
    else if c = '0' then moreZeros cs
    else .ok (c :: cs)
  | ['_'] => .error NumberKind.decimal.invalid
  | '0' :: cs => moreZeros cs
  | t => .ok t

/-- Whether a number may be followed by a text without a gap, since it starts with a keyword. -/
def mayFollowNumber (rest : Text) : Bool :=
  ["if", "in", "is"].any (fun word => word.toList.isPrefixOf rest) ||
    ["and", "else", "for", "or", "not"].any fun word =>
      word.toList.isPrefixOf rest && !(rest.drop word.length).head?.any isWordChar

/-- The end of a number: no word may follow it but a keyword. -/
def endOfNumber (kind : NumberKind) (rest : Text) : NumberEnd :=
  if rest.head?.any isWordChar && !mayFollowNumber rest then .error kind.invalid else .ok (kind, rest)

def endOfDecimal : Text → NumberEnd
  | 'j' :: cs | 'J' :: cs => endOfNumber .imaginary cs
  | rest => endOfNumber .decimal rest

def exponent (t : Text) : NumberEnd :=
  match t with
  | e :: s :: cs =>
    if e = 'e' || e = 'E' then
      if s = '+' || s = '-' then
        match cs with
        | d :: ds =>
          if d.isDigit then (moreDigits ds).bind endOfDecimal else .error NumberKind.decimal.invalid
        | [] => .error NumberKind.decimal.invalid
      else if s.isDigit then (moreDigits cs).bind endOfDecimal
      else endOfNumber .decimal t
    else endOfDecimal t
  | _ => endOfDecimal t

/-- The fraction of a number, behind its point. -/
def fraction (t : Text) : NumberEnd :=
  match t with
  | d :: ds => if d.isDigit then (moreDigits ds).bind exponent else exponent t
  | [] => .ok (.decimal, [])

/-- The digits behind the mark of another base; `needed` says that a digit must come now. -/
def baseDigits (isDigit : Char → Bool) (wrong : Option Char → String) :
    Bool → Text → Except String Text
  | needed, '_' :: c :: cs =>
    if isDigit c then baseDigits isDigit wrong false cs
    else .error (wrong (if needed || c != '_' then some c else none))
  | _, ['_'] => .error (wrong none)
  | needed, c :: cs =>
    if isDigit c then baseDigits isDigit wrong false cs
    else if needed then .error (wrong (some c))
    else .ok (c :: cs)
  | needed, [] => if needed then .error (wrong none) else .ok []

def numberInBase (kind : NumberKind) (isDigit : Char → Bool) (t : Text) : NumberEnd := do
  let wrong (c : Option Char) : String :=
    match c with
    | some c => if c.isDigit then kind.invalidDigit c else kind.invalid
    | none => kind.invalid
  let rest ← baseDigits isDigit wrong true t
  if rest.head?.any Char.isDigit then .error (wrong rest.head?) else endOfNumber kind rest

def numberEnd (t : Text) : NumberEnd := do
  match t with
  | '.' :: cs => fraction cs
  | '0' :: 'x' :: cs | '0' :: 'X' :: cs => numberInBase .hexadecimal (fun c => (hexValue? c).isSome) cs
  | '0' :: 'o' :: cs | '0' :: 'O' :: cs => numberInBase .octal (fun c => '0' ≤ c && c ≤ '7') cs
  | '0' :: 'b' :: cs | '0' :: 'B' :: cs => numberInBase .binary (fun c => c = '0' || c = '1') cs
  | '0' :: cs =>
    let rest ← moreZeros cs
    let zero := !rest.head?.any Char.isDigit
    let rest ← if zero then .ok rest else moreDigits rest.tail
    match rest with
    | '.' :: cs => fraction cs
    | c :: _ =>
      if c = 'e' || c = 'E' then exponent rest
      else if zero || c = 'j' || c = 'J' then endOfDecimal rest
      else .error leadingZeros
    | [] => if zero then .ok (.decimal, []) else .error leadingZeros
  | _ :: cs =>
    match ← moreDigits cs with
    | '.' :: cs => fraction cs
    | rest => exponent rest
  | [] => .ok (.decimal, [])
where
  leadingZeros : String :=
    "leading zeros in decimal integer literals are not permitted; " ++
      "use an 0o prefix for octal integers"

/-! ### Texts between quotes -/

/-- How many characters there are up to the end of a text, given those already counted and how many of
the closing quotes they end in; or how many there are before it breaks off. -/
def closingQuote (quote : Char) (size : Nat) : Nat → Nat → Text → Except Nat Nat
  | _, count, [] => .error count
  | run, count, c :: cs =>
    if size = 1 && c = '\n' then .error count
    else if c = quote then
      if run + 1 = size then .ok (count + 1) else closingQuote quote size (run + 1) (count + 1) cs
    else if c = '\\' then
      match cs with
      | [] => .error (count + 1)
      | _ :: ds => closingQuote quote size 0 (count + 2) ds
    else closingQuote quote size 0 (count + 1) cs

def quoteMarks : List String := ["b", "r", "u", "f", "br", "rb", "fr", "rf"]

/-- How many characters stand before the quote that a text starts with, if it starts with one. -/
def quoteMark? (t : Text) : Option Nat :=
  let isQuote (c : Char) : Bool := c == '"' || c == '\x27'
  if t.head?.any isQuote then some 0
  else
    [1, 2].find? fun n =>
      (t.drop n).head?.any isQuote &&
        quoteMarks.any fun mark => mark.toList = (t.take n).map Char.toLower

/-! ### Cutting a program into tokens -/

/-- What the scanner knows at a place: the line, the open brackets, and the open indentations, with tabs
counted to the next multiple of eight and as one. -/
structure Scanner where
  line : Nat := 0
  brackets : List (Char × Nat) := []
  indents : List (Nat × Nat) := [(0, 0)]

namespace Scanner

variable (s : Scanner)

def token (kind : TokenKind) (written : Text := []) : Token :=
  { kind, written, line := s.line, level := s.brackets.length }

def broken (certain : Bool) (message : String) (kind : ReadErrorKind := .grammar) : Token :=
  s.token (.broken ⟨⟨message, s.line, kind⟩, certain, s.brackets.head?⟩)

/-- The program ends where it must not: in a bracket, if one is open. -/
def unfinished : Token :=
  match s.brackets with
  | (c, line) :: _ =>
    s.token (.broken ⟨⟨s!"'{c}' was never closed", line, .grammar⟩, false, s.brackets.head?⟩)
  | [] => s.broken false "unexpected EOF while parsing"

/-- The end of the program. -/
def finish : Token := if s.brackets.isEmpty then s.token .finish else s.unfinished

/-- A backslash that no line end follows. -/
def strayBackslash : Token :=
  s.broken false "unexpected character after line continuation character"

def bracketLimit : Nat := 200

/-- The most indentations that may be open. -/
def indentLimit : Nat := 99

/-- The tokens for a line that starts in a column, and the indentations open after it. -/
def indentation (col alt : Nat) :
    List (Nat × Nat) → List Token → Except Token (List Token × List (Nat × Nat))
  | [], found => .ok (found, [(col, alt)])
  | (top, topAlt) :: rest, found =>
    if col = top then
      if alt = topAlt then .ok (found, (top, topAlt) :: rest) else .error tabs
    else if top < col then
      if !found.isEmpty then
        .error (s.broken false "unindent does not match any outer indentation level" .indentation)
      else if indentLimit ≤ rest.length then
        .error (s.broken false "too many levels of indentation" .indentation)
      else if alt ≤ topAlt then .error tabs
      else .ok ([s.token .indent], (col, alt) :: (top, topAlt) :: rest)
    else indentation col alt rest (s.token .dedent :: found)
where
  tabs : Token := s.broken false "inconsistent use of tabs and spaces in indentation" .tabs

def closingOf (c : Char) : Char := if c = '(' then ')' else if c = '[' then ']' else '\x7d'

/-- Account for a character that may be a bracket. -/
def bracket (c : Char) : Except String Scanner :=
  if c = '(' || c = '[' || c = '\x7b' then
    if bracketLimit ≤ s.brackets.length then .error "too many nested parentheses"
    else .ok { s with brackets := (c, s.line) :: s.brackets }
  else if c = ')' || c = ']' || c = '\x7d' then
    match s.brackets with
    | [] => .error s!"unmatched '{c}'"
    | (opened, line) :: rest =>
      if closingOf opened = c then .ok { s with brackets := rest }
      else
        let place := if line = s.line then "" else s!" on line {line}"
        let pair := s!"closing parenthesis '{c}' does not match opening parenthesis '{opened}'"
        .error (pair ++ place)
  else .ok s

/-- The line number in four or more hexadecimal digits. -/
def codePoint (c : Char) : String :=
  let digits := (Nat.toDigits 16 c.toNat).map Char.toUpper
  "U+" ++ String.ofList (List.replicate (4 - digits.length) '0' ++ digits)

/-- The error for a character that has no place in a program. -/
def strangeChar (c : Char) : String :=
  if isPrintable c then s!"invalid character '{c}' ({codePoint c})"
  else s!"invalid non-printable character {codePoint c}"

/-- The first character of a word that cannot stand where it does. -/
def strange? (word : Text) : Option Char :=
  match word with
  | c :: cs => if startsIdentifier c then cs.find? fun d => !isIdentifierChar d else some c
  | [] => none

/-- A text between quotes, with `mark` characters before it: the token and the rest. -/
def quotedToken (mark : Nat) (t : Text) : Except Token (Token × Text × Scanner) :=
  let quote := ((t.drop mark).head?).getD '"'
  let opened := t.drop mark
  let size := if opened.take 3 = [quote, quote, quote] then 3 else 1
  let body := opened.drop size
  let found := if opened.take 2 = [quote, quote] && size = 1 then .ok 1
    else closingQuote quote size 0 0 body
  match found with
  | .ok count =>
    let written := t.take (mark + size + count)
    .ok (s.token .text written, body.drop count,
      { s with line := s.line + written.count '\n' })
  | .error count =>
    let lost := body.take count
    let ended := count = body.length && lost.getLast? = some '\n'
    let last := s.line + lost.count '\n' - if ended then 1 else 0
    let what := if size = 3 then "triple-quoted string" else "string"
    .error (s.broken true s!"unterminated {what} literal (detected at line {last})")

/-- The next token inside a line, the rest behind it, and the scanner there. -/
def next (c : Char) (cs : Text) : Except Token (Token × Text × Scanner) :=
  let t := c :: cs
  match quoteMark? t with
  | some mark => s.quotedToken mark t
  | none =>
    if c.isDigit || (c = '.' && cs.head?.any Char.isDigit) then
      match numberEnd t with
      | .ok (kind, rest) =>
        let token := s.token .number (t.take (t.length - rest.length))
        .ok ({ token with joined := if rest.head?.any isWordChar then some kind else none }, rest, s)
      | .error message => .error (s.broken true message)
    else if isWordChar c then
      let word := t.takeWhile isWordChar
      if word.all fun d => d.toNat < 128 then
        let kind := if keywords.contains (str word) then TokenKind.keyword else .name
        .ok (s.token kind word, t.dropWhile isWordChar, s)
      else
        match strange? word with
        | some d => .error (s.broken true (strangeChar d))
        | none => .ok (s.token .name word, t.dropWhile isWordChar, s)
    else
      match symbols.find? fun symbol => symbol.toList.isPrefixOf t with
      | some symbol => .ok (s.token .symbol symbol.toList, t.drop symbol.length, s)
      | none =>
        match s.bracket c with
        | .error message => .error (s.broken true message)
        | .ok s' =>
          if isPrintable c then .ok (s'.token .symbol [c], cs, s')
          else .error (s.broken true (strangeChar c))

end Scanner

/-- The margin of a line: its column, the same with tabs counted as one, the column of the first
backslash, the line and the rest. A backslash at its end carries the margin to the next line. -/
def margin (s : Scanner) (col alt first : Nat) : Text → Except Token (Nat × Nat × Scanner × Text)
  | ' ' :: cs => margin s (col + 1) (alt + 1) first cs
  | '\t' :: cs => margin s ((col / 8 + 1) * 8) (alt + 1) first cs
  | '\x0c' :: cs => margin s 0 0 first cs
  | '\\' :: '\n' :: cs =>
    if cs.isEmpty then .error s.unfinished
    else margin { s with line := s.line + 1 } col alt (if first = 0 then col else first) cs
  | '\\' :: _ => .error s.strayBackslash
  | rest => .ok (if first = 0 then col else first, if first = 0 then alt else first, s, rest)

/-- The tokens from here on; `lineStart` says whether a line starts here. -/
def scan : Nat → Scanner → Bool → Text → List Token
  | 0, s, _, _ => [s.finish]
  | fuel + 1, s, true, t =>
    let s := if t.isEmpty then s else { s with line := s.line + 1 }
    match margin s 0 0 0 t with
    | .error token => [token]
    | .ok (col, alt, s, rest) =>
      if rest.head? = some '#' || rest.head? = some '\n' then
        match rest.dropWhile (· != '\n') with
        | [] => [s.finish]
        | _ :: after => scan fuel s true after
      else if !s.brackets.isEmpty then scan fuel s false rest
      else
        match s.indentation col alt s.indents [] with
        | .error token => [token]
        | .ok (found, indents) => found ++ scan fuel { s with indents } false rest
  | fuel + 1, s, false, t =>
    match t.dropWhile isGap with
    | [] => [s.finish]
    | '\n' :: cs =>
      if s.brackets.isEmpty then s.token .newline :: scan fuel s true cs else scan fuel s true cs
    | '#' :: cs =>
      match cs.dropWhile (· != '\n') with
      | [] => [s.finish]
      | rest => scan fuel s false rest
    | '\\' :: '\n' :: cs =>
      if cs.isEmpty then [s.unfinished] else scan fuel { s with line := s.line + 1 } false cs
    | '\\' :: _ => [s.strayBackslash]
    | c :: cs =>
      match s.next c cs with
      | .error token => [token]
      | .ok (token, rest, s) =>
        { token with atEnd := rest.isEmpty && !token.closesItself } :: scan fuel s false rest

/-- Whether a text ends in one line feed that ends its last line. -/
def endsLine (t : Text) : Bool :=
  match t.reverse with
  | '\r' :: _ => true
  | '\n' :: '\r' :: _ => false
  | '\n' :: _ => true
  | _ => false

/-- The tokens of an expression, or of a program, that stands below so many lines. The last line of a
program always ends, and another one follows a carriage return and a line feed. -/
def tokenize (program : Bool) (above : Nat) (t : Text) : List Token :=
  let text := normalizeNewlines t
  let ended := if program && !endsLine t then text ++ ['\n'] else text
  scan (2 * ended.length + 2) { line := above } true ended

end Literate.Script
