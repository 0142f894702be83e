import Literate.Text.Blank
import Literate.Text.Lines

/-! # Directives

A directive is a line that starts with an exclamation mark, white space and one of six keywords:

* `! include [description](path)` names a file to put in its place;
* `! include-path dir` adds a directory to the search list;
* `! if condition`, `! elsif condition`, `! else` and `! end` select lines.

Text after `else` is a remark; `end` stands alone. A line that does not fit is no directive. -/

namespace Literate

/-- A directive and its arguments. -/
inductive Directive where
  | includeFile (path description : Text)
  | includePath (directory : Text)
  | ifCondition (condition : Text)
  | elsifCondition (condition : Text)
  | elseBranch
  | endBranch
deriving DecidableEq

namespace Directive

open Text

/-- The keyword of a line with a directive's mark, and what follows it. -/
def keyword? (line : Text) : Option (Text × Text) :=
  match line with
  | '!' :: rest =>
    match trimEnd isNewline rest with
    | c :: cs =>
      if isBlank c then
        let body := stripStart cs
        let keyword := body.takeWhile fun c => !isBlank c
        if keyword.isEmpty then none else some (keyword, body.dropWhile fun c => !isBlank c)
      else none
    | [] => none
  | _ => none

/-- A link `[description](path)`; the last `](` divides it. -/
def link? (t : Text) : Option Directive :=
  if t.head? = some '[' && t.getLast? = some ')' then
    (cutLast? "](".toList t).map fun (before, after) => includeFile after.dropLast before.tail
  else none

/-- The directive with a keyword and the text after it. -/
def ofKeyword? (keyword rest : Text) : Option Directive :=
  if keyword = "include".toList then link? (strip rest)
  else if keyword = "include-path".toList then
    if (strip rest).isEmpty then none else some (includePath (strip rest))
  else if keyword = "if".toList then
    if rest.isEmpty then none else some (ifCondition (strip rest))
  else if keyword = "elsif".toList then
    if rest.isEmpty then none else some (elsifCondition (strip rest))
  else if keyword = "else".toList then some elseBranch
  else if keyword = "end".toList then
    if (strip rest).isEmpty then some endBranch else none
  else none

/-- The directive on a line, if the line holds one. -/
def parse? (line : Text) : Option Directive :=
  (keyword? line).bind fun (keyword, rest) => ofKeyword? keyword rest

end Directive
end Literate
