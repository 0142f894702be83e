import Literate.Run
import Literate.Text.Blank
import Literate.Text.Escaped
import Literate.Value

/-! # Filters

A filter changes the lines of a reference before they are put in its place. Two filters touch only the
content of a line and keep the white space around it (`quoteContent`, `addComma`), one writes a line as
the body of a literal, and two indent. Filters are found by name; a chain of names is looked up as a
whole and then run from left to right. -/

namespace Literate

open Text

/-! ### Filters on texts -/

namespace Filter

/-- The white space before the content of a line, the content, and the white space after it. A blank
line is all white space before. -/
def margins (line : Text) : Text × Text × Text :=
  if (strip line).isEmpty then (line, [], [])
  else (line.takeWhile isBlank, strip line, (line.reverse.takeWhile isBlank).reverse)

/-- Change the content of a line; blank lines stay what they are. -/
def onContent (f : Text → Text) (line : Text) : Text :=
  match margins line with
  | (_, [], _) => line
  | (before, content, after) => before ++ f content ++ after

/-- The content of a line in double quotes. -/
def quoteContent (line : Text) : Text := onContent (fun content => '"' :: content ++ ['"']) line

def addComma (line : Text) : Text := onContent (fun content => content ++ [',']) line

end Filter

/-- The filters that are always there. -/
inductive BuiltinFilter where
  | escapeLines
  | quoteContents
  | addCommas
  | indentLines (unit : Text)
  | indentContinuation (unit : Text)
deriving DecidableEq

namespace BuiltinFilter

/-- The built-in filters under their names, in order. -/
def all (unit : Text) : List (Text × BuiltinFilter) :=
  [("string_escape".toList, escapeLines), ("double_quote".toList, quoteContents),
   ("add_comma".toList, addCommas), ("indent_lines".toList, indentLines unit),
   ("indent_continuation".toList, indentContinuation unit)]

def onTexts : BuiltinFilter → List Text → List Text
  | escapeLines, lines => lines.map escaped
  | quoteContents, lines => lines.map Filter.quoteContent
  | addCommas, lines => lines.map Filter.addComma
  | indentLines unit, lines => lines.map (unit ++ ·)
  | indentContinuation _, [] => []
  | indentContinuation unit, line :: rest => line :: rest.map (unit ++ ·)

/-- The failure of an operation on what is no text, because a code point of it is no character. -/
def onTorn (operation : String) : Failure :=
  .unsupported s!"{operation} of a text with half of a surrogate pair"

/-- A function on texts applied to a value; a value that is no text lacks the member it needs. -/
def onText (view : ValueView) (member : String) (f : Text → Text)
    (torn : List Point → Except Failure Text) (v : Value) : Except Failure Value :=
  match v with
  | .text t => .ok (.text (f t))
  | .torn points => (torn points).map .text
  | _ => .error (.noMember (view.typeName v) member.toList)

/-- A function on the content of lines applied to values. -/
def onContents (view : ValueView) (f : Text → Text) (items : List Value) :
    Except Failure (List Value) :=
  items.mapM (onText view "strip" f fun _ => .error (onTorn "the content"))

/-- A value as text behind an indentation. -/
def indented (view : ValueView) (unit : Text) (v : Value) : Value :=
  .ofPoints (unit.map .char ++ view.shown v)

/-- What a built-in filter does to values. Indenting shows any value as text. -/
def onValues (view : ValueView) : BuiltinFilter → List Value → Except Failure (List Value)
  | escapeLines, items =>
    items.mapM (onText view "encode" escaped fun points => .ok (escapedPoints points))
  | quoteContents, items => onContents view Filter.quoteContent items
  | addCommas, items => onContents view Filter.addComma items
  | indentLines unit, items => .ok (items.map (indented view unit))
  | indentContinuation _, [] => .ok []
  | indentContinuation unit, first :: rest => .ok (first :: rest.map (indented view unit))

end BuiltinFilter

/-! ### Chains of filters -/

/-- A filter as it runs: a change of a list of values that may fail and may act on the state. -/
abbrev Filter (σ : Type) := List Value → Run σ (List Value)

namespace Filter

variable {σ : Type}

/-- Look up every name of a chain before any filter runs. -/
def lookUp (find? : Text → Run σ (Option (Filter σ))) :
    List Text → Run σ (List (Text × Filter σ))
  | [] => pure []
  | name :: rest => do
    match ← find? name with
    | none => Run.problem (.unknownFilter name)
    | some filter => return (name, filter) :: (← lookUp find? rest)

/-- The fault of a chain in which a filter ends in a fault: a problem of the pipeline is passed on, a
failure is reported as a failure of that filter. -/
def blame (name : Text) (fault : Fault) : Fault :=
  if fault.isProblem then fault else fault.under (.filterFailed name)

def runAll : List (Text × Filter σ) → List Value → Run σ (List Value)
  | [], items => pure items
  | (name, filter) :: rest, items => do
    runAll rest (← (filter items).mapFault (blame name))

/-- Apply a chain of filters, given by name. -/
def chain (find? : Text → Run σ (Option (Filter σ))) (names : List Text) (items : List Value) :
    Run σ (List Value) := do
  runAll (← lookUp find? names) items

/-- The lines of a filtered list. A value that is no text cannot be put into a line. -/
def texts (view : ValueView) : List Value → Except Failure (List Text)
  | [] => .ok []
  | .text t :: rest => (texts view rest).map (t :: ·)
  | .torn _ :: _ => .error (BuiltinFilter.onTorn "a reference to a line")
  | v :: _ => .error (.wrongType s!"can only concatenate str (not \"{view.typeName v}\") to str")

end Filter
end Literate
