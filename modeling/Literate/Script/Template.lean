import Literate.Script.Literal

/-! # Templates in extension code

A text with the mark `f` is a template: expressions stand in it between braces, each with a conversion
and a format behind it if need be, and the format may hold expressions again. The expressions of a
template are read as soon as they are found, so their errors come before those of what stands behind
them. `textTrees` reads texts that follow each other, templates among them. -/

namespace Literate.Script

open Text

namespace Template

/-! ### Cutting a template -/

/-- The text up to an expression. -/
structure Literal where
  text : Text
  /-- Whether it ends in a brace that was doubled, so that more of it follows. -/
  doubled : Bool := false
  rest : Text

/-- The same literal with more text in front of it. -/
def Literal.behind (before : Text) (l : Literal) : Literal := { l with text := before ++ l.text }

/-- The text that a template starts with. In a raw template a backslash is a character like others;
`inFormat` says whether this is a format, where braces cannot be doubled; `inName` says whether the
braces of a character's name are open. -/
def literal (raw inFormat : Bool) : Bool → Text → Except String Literal
  | _, [] => .ok { text := [], rest := [] }
  | true, c :: cs => (literal raw inFormat (c != '\x7d') cs).map (·.behind [c])
  | false, c :: cs =>
    if !raw && c = '\\' then
      match cs with
      | [] => .ok { text := [c], rest := [] }
      | d :: ds =>
        if d = 'N' then
          match ds with
          | [] => .ok { text := [c, d], rest := [] }
          | e :: es => (literal raw inFormat (e = '\x7b') es).map (·.behind [c, d, e])
        else if d = '\x7b' || d = '\x7d' then (brace d ds).map (·.behind [c])
        else (literal raw inFormat false ds).map (·.behind [c, d])
    else if c = '\x7b' || c = '\x7d' then brace c cs
    else (literal raw inFormat false cs).map (·.behind [c])
where
  brace (c : Char) (cs : Text) : Except String Literal :=
    if inFormat then .ok { text := [], rest := c :: cs }
    else if cs.head? = some c then .ok { text := [c], doubled := true, rest := cs.tail }
    else if c = '\x7d' then .error "f-string: single '\x7d' is not allowed"
    else .ok { text := [], rest := c :: cs }

/-- The error for a template that ends inside an expression. -/
def noBrace : String := "f-string: expecting '\x7d'"

/-- The most brackets that may be open in an expression. -/
def bracketLimit : Nat := 200

/-- The expression that a text starts with, and what follows it. The first `skip` characters are already
accounted for; `quote` is the open quote, if there is one, and whether it is threefold; `opened` are the
open brackets. -/
def expression : Nat → Option (Char × Bool) → List Char → Text → Except String (Text × Text)
  | _, some _, _, [] => .error "f-string: unterminated string"
  | _, none, c :: _, [] => .error s!"f-string: unmatched '{c}'"
  | _, none, [], [] => .error noBrace
  | skip + 1, quote, opened, c :: cs => (expression skip quote opened cs).map (add c)
  | 0, quote, opened, c :: cs =>
    let threefold := cs.take 2 = [c, c]
    if c = '\\' then .error "f-string expression part cannot include a backslash"
    else
      match quote with
      | some (q, false) =>
        (expression 0 (if c = q then none else quote) opened cs).map (add c)
      | some (q, true) =>
        if c = q && threefold then (expression 2 none opened cs).map (add c)
        else (expression 0 quote opened cs).map (add c)
      | none =>
        if c = '\x27' || c = '"' then
          (expression (if threefold then 2 else 0) (some (c, threefold)) opened cs).map (add c)
        else if c = '(' || c = '[' || c = '\x7b' then
          if bracketLimit ≤ opened.length then .error "f-string: too many nested parenthesis"
          else (expression 0 none (c :: opened) cs).map (add c)
        else if c = '#' then .error "f-string expression part cannot include '#'"
        else if opened.isEmpty && "!=<>".toList.elem c && cs.head? = some '=' then
          (expression 1 none opened cs).map (add c)
        else if opened.isEmpty && "!:\x7d=".toList.elem c then .ok ([], c :: cs)
        else if c = ')' || c = ']' || c = '\x7d' then
          match opened with
          | [] => .error s!"f-string: unmatched '{c}'"
          | o :: others =>
            if Scanner.closingOf o = c then (expression 0 none others cs).map (add c)
            else
              .error <| s!"f-string: closing parenthesis '{c}' " ++
                s!"does not match opening parenthesis '{o}'"
        else (expression 0 none opened cs).map (add c)
where
  add (c : Char) (found : Text × Text) : Text × Text := (c :: found.1, found.2)

/-- What may stand behind a conversion mark. -/
def conversions : List Char := ['s', 'r', 'a']

/-! ### Reading a template -/

/-- How a template is read: how to report what is wrong with it, how to read an expression below so many
lines, and whether it is raw. -/
structure Reader where
  error : String → ReadError
  expression : Nat → Text → Read Tree
  raw : Bool

namespace Reader

variable (r : Reader)

def fail {α : Type} (message : String) : Read α := Read.fail (r.error message)

/-- Go on with a result of cutting. -/
def cut {α : Type} : Except String α → Read α
  | .ok a => return a
  | .error message => r.fail message

/-- Read the expression behind a brace, below so many lines. -/
def checkedExpression (above : Nat) (t rest : Text) : Read Tree :=
  if t.all fun c => c = '\n' || isGap c then
    match rest with
    | '\x7d' :: _ | [] => r.fail "f-string: empty expression not allowed"
    | c :: _ => r.fail s!"f-string: expression required before '{c}'"
  else r.expression above (['('] ++ t ++ [')'])

/-- What follows an equals sign behind an expression, and the gap behind it. -/
def afterEquals : Text → Read Text
  | '=' :: rest =>
    let rest := rest.dropWhile fun c => c = '\n' || c = '\r' || c = '\x0b' || isGap c
    if rest.isEmpty then r.fail noBrace else return rest
  | t => return t

/-- What follows the conversion of an expression, if it has one. -/
def afterConversion : Text → Read Text
  | ['!'] => r.fail noBrace
  | '!' :: c :: rest =>
    if conversions.elem c then return rest
    else r.fail "f-string: invalid conversion character: expected 's', 'r', or 'a'"
  | t => return t

/-- Read a template, or a format inside one, below so many lines: its trees and what follows it. Formats
may be nested `level` deep. -/
def parts : Nat → Nat → Nat → Text → Read (List Tree × Text)
  | 0, _, _, _ => r.fail noBrace
  | fuel + 1, level, above, t => do
    let l ← r.cut (literal r.raw (level != 0) false t)
    if !r.raw then
      let _ ← r.cut (unescape 0 0 l.text)
    let linesTo (rest : Text) : Nat := above + (t.take (t.length - rest.length)).count '\n'
    match l.doubled, l.rest with
    | true, rest => parts fuel level (linesTo rest) rest
    | false, '\x7b' :: inner =>
      if 2 ≤ level then r.fail "f-string: expressions nested too deeply"
      else
        let (e, rest) ← r.cut (Template.expression 0 none [] inner)
        let tree ← r.checkedExpression (linesTo inner) e rest
        let rest ← r.afterEquals rest
        let rest ← r.afterConversion rest
        let (formats, rest) ← match rest with
          | ':' :: format => parts fuel (level + 1) (linesTo format) format
          | rest => pure ([], rest)
        match rest with
        | '\x7d' :: rest =>
          let (more, rest) ← parts fuel level (linesTo rest) rest
          return (tree :: formats ++ more, rest)
        | _ => r.fail noBrace
    | false, rest => return ([], rest)

/-- The trees of a whole template, below so many lines. -/
def template (above : Nat) (t : Text) : Read (List Tree) := do
  return (← r.parts (t.length + 2) 0 above t).1

end Reader

end Template

/-! ### Texts that follow each other -/

/-- Read texts that follow each other: the trees inside them. `bytes` says what those before are; `error`
reports what is wrong with them; `expression` reads an expression below so many lines. -/
def textTrees (error : String → ReadError) (expression : Nat → Text → Read Tree) (bytes : Option Bool) :
    List Tree → Read (List Tree)
  | .token t :: rest => do
    let has (mark : Char) : Bool := (marks t.written).elem mark
    let fail (message : String) : Read Unit := Read.fail (error message)
    if has 'b' then
      if (inside t.written).any (fun c => 128 ≤ c.toNat) then
        fail "bytes can only contain ASCII literal characters"
      else if !has 'r' then ((bytesProblem? 0 (inside t.written)).map fail).getD (pure ())
    else
      match textValue t.written with
      | .error message => fail message
      | .ok _ => pure ()
    if bytes.any (· != has 'b') then fail "cannot mix bytes and nonbytes literals"
    let found ← if has 'f' then
        Template.Reader.template ⟨error, expression, has 'r'⟩ (t.line - 1) (inside t.written)
      else pure []
    let more ← textTrees error expression (some (has 'b')) rest
    return found ++ more
  | _ => return []

end Literate.Script
