import Literate.Failure
import Literate.Text.Point

/-! # Values

Extension code computes with values: nothing, truth values, integers, texts, and references to cells of
a store, where lists, tables and functions live so that they can be shared. Filters take and give lists
of values too, because extension code may register a filter that gives something else than text. -/

namespace Literate

/-- The members that values have. -/
inductive Member where
  | append
  | upper
  | lower
  | strip
  | get
  | register
  | names
deriving DecidableEq, Repr

def Member.called : Member → String
  | append => "append"
  | upper => "upper"
  | lower => "lower"
  | strip => "strip"
  | get => "get"
  | register => "register"
  | names => "names"

/-- The values that extension code finds under fixed names. -/
inductive Builtin where
  /-- The context the code runs in. -/
  | context
  /-- The table of filters. -/
  | filters
  /-- The maker of filters, for whole lists or for single lines. -/
  | filterMaker (perLine : Bool)
  /-- The type of texts. -/
  | str
  /-- The length of a sequence. -/
  | len
  /-- The maker of a failure of some kind. -/
  | failure (kind : FailureKind)
deriving DecidableEq, Repr

/-- A value of extension code. -/
inductive Value where
  | none
  | bool (b : Bool)
  | int (n : Int)
  | text (t : Text)
  /-- Code points that are no text, because one of them is no character. -/
  | torn (points : List Point)
  /-- A cell of the store. -/
  | cell (address : Nat)
  | builtin (b : Builtin)
  /-- A member of a value, ready to be called. -/
  | bound (receiver : Value) (member : Member)
deriving DecidableEq, Inhabited

namespace Value

def text? : Value → Option Text
  | text t => some t
  | _ => Option.none

def ofPoints (points : List Point) : Value :=
  match Point.text? points with
  | some t => text t
  | Option.none => torn points

theorem ofPoints_map_char (t : Text) : ofPoints (t.map .char) = text t := by
  simp [ofPoints, Point.text?_map_char]

def points? : Value → Option (List Point)
  | text t => some (t.map .char)
  | torn points => some points
  | _ => Option.none

/-- The values that stand for code points one by one. -/
def each (points : List Point) : List Value := points.map fun p => ofPoints [p]

/-- The integer of a value that counts as one; truth values count as 0 and 1. -/
def int? : Value → Option Int
  | int n => some n
  | bool b => some (if b then 1 else 0)
  | _ => Option.none

/-- The name of a type that has a fixed name. -/
def typeCalled? : Value → Option String
  | builtin .str => some "str"
  | builtin (.filterMaker perLine) => some (if perLine then "LineFilter" else "Filter")
  | builtin (.failure .value) => some "ValueError"
  | builtin (.failure .key) => some "KeyError"
  | builtin (.failure _) => some "RuntimeError"
  | _ => Option.none

def plainTypeName : Value → String
  | none => "NoneType"
  | bool _ => "bool"
  | int _ => "int"
  | text _ | torn _ => "str"
  | cell _ => "object"
  | builtin .context => "ExtensionContext"
  | builtin .filters => "FilterRegistry"
  | builtin .len => "builtin_function_or_method"
  | builtin _ => "type"
  | bound (builtin .str) _ => "method_descriptor"
  | bound (builtin .filters) _ => "method"
  | bound _ _ => "builtin_function_or_method"

end Value

/-- How values look from outside the store: what a filter needs to know about cells. -/
structure ValueView where
  typeName : Value → String := Value.plainTypeName
  /-- The code points that stand for a value inside a text. -/
  shown : Value → List Point := fun v => v.points?.getD []
  /-- The members of a value that can be gone through. -/
  members? : Value → Option (List Value) := fun v => v.points?.map Value.each

end Literate
