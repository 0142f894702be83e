import Literate.Text.Escaped

/-! # Code points

A literal can name a code point that is no character: one half of a pair of surrogates. Texts consist of
characters, so what holds such a half is a list of code points and nothing more. It can be passed around,
compared and shown, but no file can hold it. -/

namespace Literate

inductive Point where
  | char (c : Char)
  /-- Half of a pair of surrogates. -/
  | half (code : Nat)
deriving DecidableEq

namespace Point

def ofCode (code : Nat) : Point :=
  if 0xD800 ≤ code && code < 0xE000 then half code else char (Char.ofNat code)

def code : Point → Nat
  | char c => c.toNat
  | half code => code

theorem ofCode_toNat (c : Char) : ofCode c.toNat = char c := by
  have hvalid : c.toNat < 0xD800 ∨ 0xDFFF < c.toNat ∧ c.toNat < 0x110000 := c.valid
  have hrange : (0xD800 ≤ c.toNat && c.toNat < 0xE000) = false := by
    rw [Bool.and_eq_false_iff, decide_eq_false_iff_not, decide_eq_false_iff_not]
    omega
  simp [ofCode, hrange]

def text? : List Point → Option Text
  | [] => some []
  | char c :: rest => (text? rest).map (c :: ·)
  | half _ :: _ => none

theorem text?_map_char (t : Text) : text? (t.map char) = some t := by
  induction t with
  | nil => rfl
  | cons c t ih => simp [text?, ih]

/-- Whether code points occur among others, one after the other. -/
def occursIn (pattern : List Point) : List Point → Bool
  | [] => pattern.isEmpty
  | p :: rest => pattern.isPrefixOf (p :: rest) || occursIn pattern rest

/-- A code point between quotes of the given kind. -/
def quoted (quote : Char) : Point → Text
  | char c => Text.quotedChar quote c
  | half code => Text.codeEscape code

def encoded : Point → Text
  | char c => Text.encodedChar c
  | half code => Text.codeEscape code

end Point

namespace Text

def quotedPoints (points : List Point) : Text :=
  let quote := quoteFor (points.filterMap fun p => Point.text? [p]).flatten
  quote :: points.flatMap (Point.quoted quote) ++ [quote]

/-- The body of a double-quoted literal that denotes the code points. -/
def escapedPoints (points : List Point) : Text := escapeQuotes (points.flatMap Point.encoded)

end Text
end Literate
