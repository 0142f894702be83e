import Literate.Block
import Literate.Include
import Literate.Output
import Literate.Settings
import Literate.Text.Case

/-! # Weaving

A document is woven for reading: an include becomes a link to the file, an `include-path` line goes,
and an opening fence becomes a heading, an empty line and a fence with the language alone. Everything
else stays as it is. Before that the document is checked the way it is read for tangling: its includes
are resolved, its fences must balance and each block must keep to one language. Room is made for the
bound on includes before that. -/

namespace Literate

open Text

/-- A block of a checked document: how many fragments it has and which files they come from. -/
structure BlockSummary where
  count : Nat
  sources : List (Option Path)
deriving DecidableEq

namespace Weave

/-- A block name as a title: its words, divided by hyphens and underscores, capitalised. -/
def title (name : Text) : Text :=
  let spaced := name.map fun c => if c == '-' || c == '_' then ' ' else c
  joinWith [' '] ((words spaced).map capitalize)

/-- The heading that replaces an opening fence. -/
def heading (header : Fence.Header) : Text :=
  match header.role with
  | .extension => "###### Extension Block\n".toList
  | .block replacing name =>
    let mark := if replacing then " Replacing".toList else []
    if name.isEmpty then "######".toList ++ mark ++ " Output Block\n".toList
    else "######".toList ++ mark ++ " Code Block: ".toList ++ title name ++ ['\n']

/-- The lines that replace an opening fence. -/
def opening (header : Fence.Header) : List Text :=
  [heading header, ['\n'], header.indent ++ Fence.marker ++ ' ' :: header.language ++ ['\n']]

/-- The line that replaces an include. -/
def includeLink (path : Text) : Text :=
  "**See include:** [".toList ++ path ++ "](".toList ++ path ++ ")\n".toList

/-- Weave lines from here on; `inside` says whether a fence is open. -/
def render (extensionLanguage : Text) (inside : Bool) : List Line → List Text
  | [] => []
  | line :: rest =>
    match Directive.parse? line.text with
    | some (.includeFile path _) => includeLink path :: render extensionLanguage inside rest
    | some (.includePath _) => render extensionLanguage inside rest
    | _ =>
      match Fence.Header.parse? extensionLanguage line.text with
      | none => line.text :: render extensionLanguage inside rest
      | some header =>
        (if inside then [line.text] else opening header) ++
          render extensionLanguage (!inside) rest

/-- The blocks of a document, its includes resolved. -/
def check (tree : FileTree) (settings : Settings) (file : Path) (lines : List Line) :
    Run Search (Table Text BlockSummary) := do
  let resolved ← Include.resolve tree settings.maxIncludeDepth file 0 lines
  let blocks ← Run.ofExcept do Block.group (← Fragment.collect settings.extensionLanguage resolved)
  Run.progress 2 s!"Found {blocks.length} blocks"
  return blocks.mapValues fun block =>
    ⟨block.fragments.length, block.fragments.map fun fragment => fragment.opened.source⟩

end Weave

/-- A document to be woven, and what has come of it. -/
structure Weaver where
  lines : List Line
  file : Path := {}
  dirs : List Path := []
  blocks : Table Text BlockSummary := []
  woven : List Text := []
  done : Bool := false

namespace Weaver

/-- Check and weave the document, where `stack` calls have begun. -/
def weave (settings : Settings) (stack : Nat) (tree : FileTree) : Run Weaver (List Text) := do
  let w ← Run.get
  Run.progress 1 s!"Weaving {w.file}"
  let check := (Weave.check tree settings w.file w.lines).aside { dirs := w.dirs }
  let blocks ← check.withRoom settings stack
  let woven := Weave.render settings.extensionLanguage false w.lines
  Run.set { w with blocks, woven, done := true }
  return woven

/-- Write the woven document; it is woven first if that has not been done. -/
def write (settings : Settings) (stack : Nat) (path : Path) : Run (Weaver × FileTree) Bool := do
  let (w, tree) ← Run.get
  unless w.done do
    let _ ← (weave settings (stack + 1) tree).onFirst
  let (w, _) ← Run.get
  (writeLines path w.woven).onSecond
  return true

end Weaver
end Literate
