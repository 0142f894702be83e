import Literate.Text.Basic
import Literate.Text.CaseTable

/-! # Upper case, lower case and capitalised texts

Case mappings work on whole texts, because one character may become several (`ß` becomes `SS`) and
because a capital sigma becomes `ς` at the end of a word and `σ` elsewhere. -/

namespace Literate.Text

/-- The counterpart of a code point in a list of runs. -/
def caseOffset? (n : Nat) : List CaseRun → Option Nat
  | [] => none
  | run :: rest =>
    if run.first ≤ n && n ≤ run.last && (n - run.first) % run.step == 0 then
      some (Int.toNat (n + run.offset))
    else caseOffset? n rest

/-- The counterpart of a character: a long form if it has one, else one character. -/
def mapCase (long : List (Nat × List Nat)) (runs : List CaseRun) (c : Char) : Text :=
  match long.lookup c.toNat with
  | some form => form.map Char.ofNat
  | none =>
    match caseOffset? c.toNat runs with
    | some n => [Char.ofNat n]
    | none => [c]

def upperChar (c : Char) : Text :=
  if c.toNat < 128 then [c.toUpper] else mapCase upperLong upperRuns c

/-- The lower case form of a character that is not a capital sigma. -/
def lowerChar (c : Char) : Text :=
  if c.toNat < 128 then [c.toLower] else mapCase lowerLong lowerRuns c

/-- The form of a character at the start of a title. -/
def titleChar (c : Char) : Text :=
  match titleForms.lookup c.toNat with
  | some form => form.map Char.ofNat
  | none => upperChar c

/-- Whether the first character that counts, in reading order, is a cased letter. -/
def startsCased (t : Text) : Bool :=
  match t.dropWhile fun c => inRanges c.toNat caseIgnorableRanges with
  | [] => false
  | c :: _ => inRanges c.toNat casedRanges

/-- A capital sigma ends a word if a cased letter precedes it and none follows. -/
def sigmaForm (before after : Text) : Char :=
  if startsCased before && !startsCased after then 'ς' else 'σ'

/-- Lower case of a text; `before` holds the characters already read, last one first. -/
def lowerFrom (before : Text) : Text → Text
  | [] => []
  | c :: cs =>
    (if c = 'Σ' then [sigmaForm before cs] else lowerChar c) ++ lowerFrom (c :: before) cs

def lower (t : Text) : Text := lowerFrom [] t

def upper (t : Text) : Text := t.flatMap upperChar

/-- The text with its first character in title form and the rest in lower case. -/
def capitalize : Text → Text
  | [] => []
  | c :: cs => titleChar c ++ lowerFrom [c] cs

end Literate.Text
