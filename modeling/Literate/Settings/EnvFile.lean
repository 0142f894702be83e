import Literate.Table
import Literate.Text.Blank
import Literate.Text.Lines

/-! # Files of variables

A file of variables binds one name per line, `NAME=value`. The word `export` may stand before the
name. A value may stand between single or double quotes, where a backslash protects the character
behind it; without quotes it ends before a comment or at the end of its line. A line that does not fit
is skipped. A value may refer to variables of the environment and to those that the file has bound
before. -/

namespace Literate.EnvFile

open Text

/-- A binding as it is written: a name, and a value if there is an equals sign. -/
structure Binding where
  name : Text
  value : Option Text
deriving DecidableEq

/-! ### Parts of a line -/

/-- White space inside a line. -/
def isGap (c : Char) : Bool := isBlank c && c != '\n'

/-- What is left after the white space inside a line. -/
def skipGap (t : Text) : Text := t.dropWhile isGap

def skipLine (t : Text) : Text := t.dropWhile (· != '\n')

/-- What is left after the word `export` and the white space behind it, if both are there. -/
def skipExport (t : Text) : Text :=
  match after? "export".toList t with
  | some rest => if (rest.takeWhile isGap).isEmpty then t else skipGap rest
  | none => t

/-- The characters of a name without quotes. -/
def isNameChar (c : Char) : Bool := c != '=' && c != '#' && !isBlank c

def name? (t : Text) : Option (Option Text × Text) :=
  match t with
  | '#' :: _ => some (none, t)
  | '\x27' :: rest =>
    (cut? ['\x27'] rest).bind fun (name, rest) =>
      if name.isEmpty then none else some (some name, rest)
  | t =>
    match t.takeWhile isNameChar with
    | [] => none
    | name => some (some name, t.dropWhile isNameChar)

/-- The characters that a backslash protects between single quotes. -/
def singleEscape? (c : Char) : Option Char := if c = '\\' || c = '\x27' then some c else none

/-- The characters that a backslash and a letter stand for between double quotes. -/
def doubleEscape? (c : Char) : Option Char :=
  match c with
  | '\\' | '\x27' | '"' => some c
  | 'a' => some '\x07'
  | 'b' => some '\x08'
  | 'f' => some '\x0c'
  | 'n' => some '\n'
  | 'r' => some '\r'
  | 't' => some '\t'
  | 'v' => some '\x0b'
  | _ => none

/-- The text up to the next quote that no backslash protects, and the rest behind the quote. -/
def upToQuote? (quote : Char) : Text → Option (Text × Text)
  | [] => none
  | '\\' :: c :: rest => (upToQuote? quote rest).map fun (t, rest) => ('\\' :: c :: t, rest)
  | c :: rest =>
    if c = quote then some ([], rest)
    else (upToQuote? quote rest).map fun (t, rest) => (c :: t, rest)

/-- A text with its escapes replaced. -/
def unescape (escape? : Char → Option Char) : Text → Text
  | [] => []
  | [c] => [c]
  | c :: d :: rest =>
    match if c = '\\' then escape? d else none with
    | some e => e :: unescape escape? rest
    | none => c :: unescape escape? (d :: rest)

/-- A value without quotes up to the comment behind it. -/
def withoutComment : Text → Text
  | [] => []
  | c :: rest =>
    if isBlank c && (stripStart rest).head? = some '#' then [] else c :: withoutComment rest

/-- A value behind an equals sign, and the rest. -/
def value? (t : Text) : Option (Text × Text) :=
  match skipGap t with
  | '\x27' :: rest =>
    (upToQuote? '\x27' rest).map fun (t, rest) => (unescape singleEscape? t, rest)
  | '"' :: rest => (upToQuote? '"' rest).map fun (t, rest) => (unescape doubleEscape? t, rest)
  | _ => some (strip (withoutComment (t.takeWhile (· != '\n'))), skipLine t)

/-- What is left behind a comment, if there is one. -/
def skipComment (t : Text) : Text :=
  match skipGap t with
  | '#' :: rest => skipLine rest
  | _ => t

/-- Whether only white space is left on a line. -/
def endsLine (t : Text) : Bool := (skipGap t).head?.all (· == '\n')

/-! ### Bindings -/

/-- What was read, or else the text at which reading stopped. -/
def orStop {α : Type} (t : Text) : Option (α × Text) → Except Text (α × Text)
  | some found => .ok found
  | none => .error t

/-- The binding at the start of a line, if the line fits and is not just a comment. -/
def binding (t : Text) : Except Text (Option Binding × Text) := do
  let t := skipExport t
  let (name, t) ← orStop t (name? t)
  let t := skipGap t
  let (value, t) ←
    match t with
    | '=' :: rest => do
      let (value, rest) ← orStop (skipGap rest) (value? rest)
      pure (some value, rest)
    | t => pure (none, t)
  let t := skipComment t
  if endsLine t then return (name.map (Binding.mk · value), t) else .error t

/-- The bindings from here on; the first argument bounds the lines. -/
def bindings : Nat → Text → List Binding
  | 0, _ => []
  | fuel + 1, t =>
    match stripStart t with
    | [] => []
    | t =>
      match binding t with
      | .ok (bound, rest) => bound.toList ++ bindings fuel (skipLine rest)
      | .error rest => bindings fuel (skipLine rest)

/-! ### References to variables -/

/-- The name and the default of a reference after its opening brace, and the rest. -/
def reference? (t : Text) : Option ((Text × Text) × Text) :=
  let isNamePart := fun c => c != '\x7d' && c != ':'
  let name := t.takeWhile isNamePart
  match t.dropWhile isNamePart with
  | '\x7d' :: rest => some ((name, []), rest)
  | ':' :: '-' :: rest => (cut? ['\x7d'] rest).map fun (default, rest) => ((name, default), rest)
  | _ => none

/-- A value with its references replaced; the first argument bounds the steps. -/
def fill (lookup : Text → Text → Text) : Nat → Text → Text
  | 0, t => t
  | _ + 1, [] => []
  | fuel + 1, c :: rest =>
    match (after? ['$', '\x7b'] (c :: rest)).bind reference? with
    | some ((name, default), rest) => lookup name default ++ fill lookup fuel rest
    | none => c :: fill lookup fuel rest

/-- The value of a variable: that of the file counts, then that of the environment, then the default.
A name that the file binds to no value is empty. -/
def lookup (environment : List (Text × Text)) (known : Table Text (Option Text))
    (name default : Text) : Text :=
  match known.get? name with
  | some value => value.getD []
  | none => (environment.lookup name).getD default

/-- A text without the mark that may stand before its first character. -/
def withoutMark : Text → Text
  | '\ufeff' :: rest => rest
  | t => t

/-- The variables that a file binds, in the order in which their names come first. -/
def parse (environment : List (Text × Text)) (t : Text) : Table Text (Option Text) :=
  let t := normalizeNewlines (withoutMark t)
  (bindings t.length t).foldl
    (fun known b => known.set b.name
      (b.value.map fun value => fill (lookup environment known) value.length value)) []

end Literate.EnvFile
