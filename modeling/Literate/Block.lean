import Literate.Fragment
import Literate.Table

/-! # Blocks

All fragments of one name form a block, in order of first appearance and in one language. The body of
a block starts at its last replacing fragment and runs through all later ones; its last line loses its
terminator. The block with the empty name is the root, the text that is written out. -/

namespace Literate

/-- The fragments of one name. -/
structure Block where
  name : Text
  language : Text
  fragments : List Fragment := []
deriving DecidableEq, Inhabited

namespace Block

/-- The position of the last replacing fragment among fragments numbered from `index` on, or `last`
if none of them replaces. -/
def lastReplacingFrom (index last : Nat) : List Fragment → Nat
  | [] => last
  | fragment :: rest =>
    lastReplacingFrom (index + 1) (if fragment.header.replacing then index else last) rest

/-- The position of the last replacing fragment, 0 if none replaces. -/
def lastReplacing (block : Block) : Nat := lastReplacingFrom 0 0 block.fragments

/-- A line without its terminator: a line feed, a carriage return or both. -/
def dropTerminator (line : Text) : Text := Text.dropLastIf '\r' (Text.dropLastIf '\n' line)

/-- The lines with the terminator of the last one removed. -/
def dropLastTerminator : List Text → List Text
  | [] => []
  | [line] => [dropTerminator line]
  | line :: rest => line :: dropLastTerminator rest

/-- The body of a block. -/
def body (block : Block) : List Text :=
  dropLastTerminator ((block.fragments.drop block.lastReplacing).flatMap Fragment.lines)

/-- Add a fragment to the blocks. Extension code joins no block. -/
def add (blocks : Table Text Block) (fragment : Fragment) : Except Fault (Table Text Block) :=
  if fragment.header.isExtension then .ok blocks
  else
    let name := fragment.header.name
    match blocks.get? name with
    | none => .ok (blocks.set name ⟨name, fragment.header.language, [fragment]⟩)
    | some block =>
      if fragment.header.language = block.language then
        .ok (blocks.set name { block with fragments := block.fragments ++ [fragment] })
      else
        .error (.ofProblem (.mixedLanguages name block.language fragment.header.language
          fragment.opened.location))

/-- The blocks that fragments form, in order of first appearance. -/
def group (fragments : List Fragment) : Except Fault (Table Text Block) :=
  fragments.foldlM add []

/-- The root body, if there is one, and the bodies of the named blocks. -/
structure Bodies where
  root : Option (List Text)
  named : Table Text (List Text)
deriving DecidableEq

/-- Take the root apart from the named blocks. -/
def bodies (blocks : Table Text Block) : Bodies where
  root := (blocks.get? []).map body
  named := (blocks.erase []).mapValues body

/-- The bodies of the blocks of a document. -/
def assemble (extensionLanguage : Text) (lines : List Line) : Except Fault Bodies := do
  return bodies (← group (← Fragment.collect extensionLanguage lines))

end Block
end Literate
