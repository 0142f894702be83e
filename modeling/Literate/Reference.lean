import Literate.Text.Alphanumeric
import Literate.Text.Blank

/-! # References

A reference names a block and, behind bars, the filters its lines go through: `name | filter | filter`.
It is written between two delimiters; one that stands directly behind the escape character is not
live. A text is cut into literal spans and live references, and nothing of it is lost. -/

namespace Literate

open Text

/-- The delimiters of references and the text that protects them. -/
structure Delimiters where
  opening : Text := ['⦅']
  closing : Text := ['⦆']
  escape : Text := ['\\']
deriving DecidableEq, Inhabited

/-- Whether the character before a delimiter protects it; only an escape of one character does. -/
def Delimiters.protectedBy (d : Delimiters) : Option Char → Bool
  | some c => d.escape == [c]
  | none => false

/-- A reference to a block; `raw` is the text it was written as. -/
structure Reference where
  name : Text
  filters : List Text := []
  raw : Text := []
deriving DecidableEq, Inhabited

namespace Reference

/-- The characters between the delimiters of a reference. -/
def isTokenChar (c : Char) : Bool := isAlphanumeric c || c == '_' || c == '-' || c == ' ' || c == '|'

/-- Read what stands between two delimiters. -/
def parse? (inner : Text) : Option Reference :=
  if inner.all isTokenChar then
    match (splitAtChar '|' inner).map strip with
    | [] => none
    | name :: filters => if name.isEmpty then none else some { name, filters }
  else none

theorem parse?_nil : parse? [] = none := rfl

/-- The reference a text starts with, and the text after it. -/
def read? (d : Delimiters) (t : Text) : Option (Reference × Text) :=
  match after? d.opening t with
  | none => none
  | some rest =>
    match cut? d.closing rest with
    | none => none
    | some (inner, after) =>
      (parse? inner).map fun r => ({ r with raw := d.opening ++ inner ++ d.closing }, after)

theorem length_of_read? {d : Delimiters} {t after : Text} {r : Reference}
    (h : read? d t = some (r, after)) : after.length < t.length := by
  unfold read? at h
  split at h
  · simp at h
  · next rest hrest =>
    split at h
    · simp at h
    · next inner tail hcut =>
      obtain ⟨s, hs, heq⟩ := Option.map_eq_some_iff.1 h
      simp only [Prod.mk.injEq] at heq
      obtain ⟨-, rfl⟩ := heq
      have hpos : 0 < inner.length := by
        cases inner with
        | nil => simp [parse?_nil] at hs
        | cons c cs => simp
      rw [after?_eq_some_iff.1 hrest, eq_append_of_cut? hcut]
      simp only [List.length_append]
      omega

end Reference

/-- A part of a text: a span that stands for itself or a live reference. -/
inductive Segment where
  | literal (t : Text)
  | reference (r : Reference)
deriving DecidableEq

namespace Segment

/-- The reference of a segment. -/
def reference? : Segment → Option Reference
  | literal _ => none
  | reference r => some r

/-- The text a segment was cut from. -/
def raw : Segment → Text
  | literal t => t
  | reference r => r.raw

/-- Put a character before segments, in their first literal. -/
def pushChar (c : Char) : List Segment → List Segment
  | literal t :: rest => literal (c :: t) :: rest
  | segments => literal [c] :: segments

/-- Put a text before segments, in their first literal. -/
def pushText (t : Text) (segments : List Segment) : List Segment := t.foldr pushChar segments

/-- The segments from here on; `last` is the character before. An opening delimiter that is escaped
or begins no reference is literal as a whole. -/
def scan (d : Delimiters) (last : Option Char) (t : Text) : List Segment :=
  match t with
  | [] => []
  | c :: cs =>
    if d.opening.isPrefixOf (c :: cs) then
      match h : (if d.protectedBy last then none else Reference.read? d (c :: cs)) with
      | some (r, after) => reference r :: scan d r.raw.getLast? after
      | none =>
        let width := d.opening.length - 1
        pushText (c :: cs.take width) (scan d (c :: cs.take width).getLast? (cs.drop width))
    else pushChar c (scan d (some c) cs)
termination_by t.length
decreasing_by
  · split at h
    · simp at h
    · exact Reference.length_of_read? h
  · simp only [List.length_cons, List.length_drop]
    omega
  · simp

/-- Cut a text into literal spans and live references. -/
def tokenize (d : Delimiters) (t : Text) : List Segment := scan d none t

end Segment
end Literate
