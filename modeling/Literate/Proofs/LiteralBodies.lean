import Mathlib
import Literate.Script.Literal
import Literate.Script.Token
import Literate.Text.Escaped

/-! # Bodies of literals

What stands between the quotes of a literal denotes a text: plain characters stand for themselves, and an
escape stands for one character. `Literal.Denotes` says so apart from any reader, with no more than the
escapes that writing a line needs. A body that denotes a text

* consists of printable ASCII characters (`Denotes.isPlainAscii`);
* is closed by the first quote behind it, since it holds none outside an escape and ends in no open one
  (`Denotes.closingQuote_eq`);
* is read back as that text (`Denotes.unescape_eq`), so that it denotes no other.

A line is written as a body in two passes over all of it. The second, which escapes the quotes, finds none
in the escapes that the first has made (`quote_mem_encodedChar_iff`), so the two come to one pass over the
characters (`escaped_eq_flatMap`). Each character is then one plain character or one whole escape, and the
body denotes the line (`denotes_escaped`). -/

namespace Literate

open Text

/-! ### Hexadecimal digits -/

namespace Text

theorem hexValue?_digitChar {d : Nat} (h : d < 16) : hexValue? d.digitChar = some d := by
  decide +revert

theorem hexNumber?_concat (digits : Text) (c : Char) : hexNumber? (digits ++ [c]) =
    (hexNumber? digits).bind fun n => (hexValue? c).map (16 * n + ·) := by
  simp [hexNumber?, List.foldlM_append]

theorem hexNumber?_toDigits (n : Nat) : hexNumber? (Nat.toDigits 16 n) = some n := by
  induction n using Nat.strongRecOn with
  | ind n ih =>
      by_cases hn : n < 16
      · rw [Nat.toDigits_of_lt_base hn]
        simp [hexNumber?, hexValue?_digitChar hn]
      · have hdigit := hexValue?_digitChar (Nat.mod_lt n (by decide : 0 < 16))
        rw [Nat.toDigits_of_base_le (by decide) (by omega), hexNumber?_concat, ih (n / 16) (by omega),
          hdigit]
        simp only [Option.bind_some, Option.map_some, Option.some.injEq]
        omega

theorem hexNumber?_zeros (count : Nat) (digits : Text) :
    hexNumber? (List.replicate count '0' ++ digits) = hexNumber? digits := by
  induction count with
  | zero => rfl
  | succ count ih => exact ih

theorem hexNumber?_hexDigits (width n : Nat) : hexNumber? (hexDigits width n) = some n :=
  (hexNumber?_zeros _ _).trans (hexNumber?_toDigits n)

/-- A number that fits is written with just as many digits as asked for. -/
theorem length_hexDigits {width n : Nat} (hwidth : 0 < width) (hn : n < 16 ^ width) :
    (hexDigits width n).length = width := by
  have hlength := (Nat.length_toDigits_le_iff (b := 16) (by decide) hwidth).2 hn
  simp only [hexDigits, List.length_append, List.length_replicate]
  omega

theorem isSome_hexValue? {digits : Text} {n : Nat} (h : hexNumber? digits = some n) :
    ∀ c ∈ digits, (hexValue? c).isSome := by
  induction digits using List.reverseRecOn generalizing n with
  | nil => simp
  | append_singleton digits c ih =>
      rw [hexNumber?_concat] at h
      obtain ⟨m, hm, hc⟩ := Option.bind_eq_some_iff.1 h
      obtain ⟨d, hd, -⟩ := Option.map_eq_some_iff.1 hc
      rw [List.forall_mem_append]
      exact ⟨ih hm, by simp [hd]⟩

theorem toNat_lt (c : Char) : c.toNat < 0x110000 := by
  have hvalid := c.valid
  simp only [UInt32.isValidChar, Nat.isValidChar] at hvalid
  show c.val.toNat < 0x110000
  omega

end Text

namespace Literal

/-! ### What a body denotes -/

/-- The characters that can be typed: a space, or visible and in ASCII. -/
def IsPlainAscii (c : Char) : Prop := 32 ≤ c.toNat ∧ c.toNat < 127

/-- The letters of escapes that stand for a fixed character, with that character. -/
def letters : List (Char × Char) :=
  [('\\', '\\'), ('"', '"'), ('n', '\n'), ('r', '\r'), ('t', '\t')]

/-- The letters of escapes by code point, with the number of digits behind them. -/
def widths : List (Char × Nat) := [('x', 2), ('u', 4), ('U', 8)]

/-- The body of a double-quoted literal denotes a text. -/
inductive Denotes : Text → Text → Prop
  | nil : Denotes [] []
  | plain {c : Char} {body text : Text} (typed : IsPlainAscii c) (quote : c ≠ '"')
      (backslash : c ≠ '\\') (rest : Denotes body text) : Denotes (c :: body) (c :: text)
  | letter {l c : Char} {body text : Text} (known : (l, c) ∈ letters) (rest : Denotes body text) :
      Denotes ('\\' :: l :: body) (c :: text)
  | code {l c : Char} {width : Nat} {digits body text : Text} (known : (l, width) ∈ widths)
      (length : digits.length = width) (value : hexNumber? digits = some c.toNat)
      (rest : Denotes body text) : Denotes ('\\' :: l :: (digits ++ body)) (c :: text)

theorem isPlainAscii_of_hexValue? {c : Char} (h : (hexValue? c).isSome) :
    IsPlainAscii c ∧ c ≠ '"' ∧ c ≠ '\\' := by
  have hrange : 48 ≤ c.toNat ∧ c.toNat ≤ 57 ∨ 97 ≤ c.toNat ∧ c.toNat ≤ 102 ∨
      65 ≤ c.toNat ∧ c.toNat ≤ 70 := by
    unfold hexValue? at h
    split at h
    · next hdigit =>
        simp only [Char.isDigit, Bool.and_eq_true, decide_eq_true_eq] at hdigit
        exact .inl hdigit
    · split at h
      · next hlower =>
          simp only [Bool.and_eq_true, decide_eq_true_eq] at hlower
          exact .inr (.inl hlower)
      · split at h
        · next hupper =>
            simp only [Bool.and_eq_true, decide_eq_true_eq] at hupper
            exact .inr (.inr hupper)
        · cases h
  refine ⟨⟨by omega, by omega⟩, ?_, ?_⟩
  · rintro rfl
    revert hrange
    decide
  · rintro rfl
    revert hrange
    decide

/-- An escape is a backslash, a letter and the digits behind it, all of them typed. -/
theorem isPlainAscii_of_mem_letters {l c : Char} (h : (l, c) ∈ letters) : IsPlainAscii l := by
  simp only [letters, List.mem_cons, Prod.mk.injEq, List.not_mem_nil, or_false] at h
  rcases h with ⟨rfl, -⟩ | ⟨rfl, -⟩ | ⟨rfl, -⟩ | ⟨rfl, -⟩ | ⟨rfl, -⟩ <;> exact ⟨by decide, by decide⟩

theorem isPlainAscii_of_mem_widths {l : Char} {width : Nat} (h : (l, width) ∈ widths) :
    IsPlainAscii l := by
  simp only [widths, List.mem_cons, Prod.mk.injEq, List.not_mem_nil, or_false] at h
  rcases h with ⟨rfl, -⟩ | ⟨rfl, -⟩ | ⟨rfl, -⟩ <;> exact ⟨by decide, by decide⟩

variable {body text : Text}

theorem Denotes.isPlainAscii (h : Denotes body text) : ∀ c ∈ body, IsPlainAscii c := by
  have hbackslash : IsPlainAscii '\\' := ⟨by decide, by decide⟩
  induction h with
  | nil => simp
  | plain typed _ _ _ ih => exact List.forall_mem_cons.2 ⟨typed, ih⟩
  | letter known _ ih =>
      simp only [List.forall_mem_cons]
      exact ⟨hbackslash, isPlainAscii_of_mem_letters known, ih⟩
  | code known _ value _ ih =>
      simp only [List.forall_mem_cons, List.forall_mem_append]
      exact ⟨hbackslash, isPlainAscii_of_mem_widths known,
        fun c hc => (isPlainAscii_of_hexValue? (isSome_hexValue? value c hc)).1, ih⟩

/-! ### Reading a body -/

theorem closingQuote_plain {c : Char} (typed : IsPlainAscii c) (quote : c ≠ '"') (backslash : c ≠ '\\')
    (count : Nat) (rest : Text) : Script.closingQuote '"' 1 0 count (c :: rest) =
      Script.closingQuote '"' 1 0 (count + 1) rest := by
  have hnewline : c ≠ '\n' := by
    rintro rfl
    exact absurd typed.1 (by decide)
  rw [Script.closingQuote.eq_def]
  simp [hnewline, quote, backslash]

theorem closingQuote_escaped (c : Char) (count : Nat) (rest : Text) :
    Script.closingQuote '"' 1 0 count ('\\' :: c :: rest) =
      Script.closingQuote '"' 1 0 (count + 2) rest := by
  rw [Script.closingQuote.eq_def]
  simp

theorem closingQuote_digits {digits : Text} (h : ∀ c ∈ digits, (hexValue? c).isSome) (count : Nat)
    (rest : Text) : Script.closingQuote '"' 1 0 count (digits ++ rest) =
      Script.closingQuote '"' 1 0 (count + digits.length) rest := by
  induction digits generalizing count with
  | nil => rfl
  | cons c digits ih =>
      rw [List.forall_mem_cons] at h
      obtain ⟨typed, quote, backslash⟩ := isPlainAscii_of_hexValue? h.1
      rw [List.cons_append, closingQuote_plain typed quote backslash, ih h.2, List.length_cons]
      congr 1
      omega

theorem Denotes.closingQuote_eq (h : Denotes body text) (count : Nat) (rest : Text) :
    Script.closingQuote '"' 1 0 count (body ++ '"' :: rest) = .ok (count + body.length + 1) := by
  induction h generalizing count with
  | nil =>
      rw [List.nil_append, Script.closingQuote.eq_def]
      simp
  | plain typed quote backslash _ ih =>
      rw [List.cons_append, closingQuote_plain typed quote backslash, ih, List.length_cons]
      congr 1
      omega
  | letter known _ ih =>
      rw [List.cons_append, List.cons_append, closingQuote_escaped, ih, List.length_cons,
        List.length_cons]
      congr 1
      omega
  | code known _ value _ ih =>
      rw [List.cons_append, List.cons_append, List.append_assoc, closingQuote_escaped,
        closingQuote_digits (isSome_hexValue? value), ih]
      simp only [List.length_cons, List.length_append]
      congr 1
      omega

theorem unescape_plain {c : Char} (h : c ≠ '\\') (position : Nat) (rest : Text) :
    Script.unescape 0 position (c :: rest) =
      (Script.unescape 0 (position + Script.places c) rest).map (.char c :: ·) := by
  rw [Script.unescape.eq_def]
  simp [h]

theorem unescape_skip {r : Except String (List Point)} (h : ∀ position, Script.unescape 0 position body = r)
    (skipped : Text) (position : Nat) :
    Script.unescape skipped.length position (skipped ++ body) = r := by
  induction skipped generalizing position with
  | nil => exact h position
  | cons c skipped ih =>
    rw [List.cons_append, List.length_cons, Script.unescape]
    exact ih _

theorem unescape_letter {l c : Char} (known : (l, c) ∈ letters) (position : Nat) (rest : Text) :
    Script.unescape 0 position ('\\' :: l :: rest) =
      (Script.unescape 1 (position + 1) (l :: rest)).map (.char c :: ·) := by
  simp only [letters, List.mem_cons, Prod.mk.injEq, List.not_mem_nil, or_false] at known
  rcases known with ⟨rfl, rfl⟩ | ⟨rfl, rfl⟩ | ⟨rfl, rfl⟩ | ⟨rfl, rfl⟩ | ⟨rfl, rfl⟩ <;>
    simp [Script.unescape, Script.escapeChar?]

theorem codeEscape_eq {l c : Char} {digits : Text} (value : hexNumber? digits = some c.toNat)
    (position : Nat) (rest : Text) :
    Script.codeEscape position l digits.length (digits ++ rest) = .ok (.char c) := by
  have hdigits : (digits.takeWhile fun c => (hexValue? c).isSome) = digits :=
    List.takeWhile_eq_self_iff.2 (isSome_hexValue? value)
  unfold Script.codeEscape
  simp [hdigits, value, toNat_lt c, Point.ofCode_toNat]

theorem unescape_code {l c : Char} {width : Nat} {digits : Text} (known : (l, width) ∈ widths)
    (length : digits.length = width) (value : hexNumber? digits = some c.toNat) (position : Nat)
    (rest : Text) : Script.unescape 0 position ('\\' :: l :: (digits ++ rest)) =
      (Script.unescape (width + 1) (position + 1) (l :: (digits ++ rest))).map (.char c :: ·) := by
  subst length
  have hcode := codeEscape_eq (l := l) value position rest
  simp only [widths, List.mem_cons, Prod.mk.injEq, List.not_mem_nil, or_false] at known
  rcases known with ⟨rfl, hwidth⟩ | ⟨rfl, hwidth⟩ | ⟨rfl, hwidth⟩
  all_goals
    rw [hwidth] at hcode ⊢
    rw [Script.unescape.eq_def]
    simp [Script.escapeChar?, Script.codeWidth?, hcode]

theorem Denotes.unescape_eq (h : Denotes body text) (position : Nat) :
    Script.unescape 0 position body = .ok (text.map .char) := by
  induction h generalizing position with
  | nil => rfl
  | plain typed quote backslash _ ih =>
      rw [unescape_plain backslash, ih]
      rfl
  | @letter l c body text known _ ih =>
      have hskip : Script.unescape 1 (position + 1) (l :: body) = .ok (text.map .char) :=
        unescape_skip ih [l] _
      rw [unescape_letter known, hskip]
      rfl
  | @code l c width digits body text known length value _ ih =>
      have hskip := unescape_skip ih (l :: digits) (position + 1)
      rw [List.length_cons, length] at hskip
      rw [unescape_code known length value, ← List.cons_append, hskip]
      rfl

/-! ### Writing a body -/

theorem exists_codeEscape_eq (c : Char) : ∃ l width, (l, width) ∈ widths ∧ 0 < width ∧
    c.toNat < 16 ^ width ∧ codeEscape c.toNat = '\\' :: l :: hexDigits width c.toNat := by
  unfold codeEscape
  split
  · next hc => exact ⟨'x', 2, by decide, by decide, hc, rfl⟩
  split
  · next hc => exact ⟨'u', 4, by decide, by decide, hc, rfl⟩
  · exact ⟨'U', 8, by decide, by decide, (toNat_lt c).trans (by decide), rfl⟩

theorem quote_mem_encodedChar_iff {c : Char} : '"' ∈ encodedChar c ↔ c = '"' := by
  constructor
  · intro h
    obtain ⟨l, width, known, -, -, hcode⟩ := exists_codeEscape_eq c
    have hescape : '"' ∉ codeEscape c.toNat := by
      rw [hcode]
      simp only [List.mem_cons, not_or]
      refine ⟨by decide, ?_, fun hdigit => ?_⟩
      · rintro rfl
        simp [widths] at known
      · have hvalue := isSome_hexValue? (hexNumber?_hexDigits width c.toNat) _ hdigit
        exact (isPlainAscii_of_hexValue? hvalue).2.1 rfl
    unfold encodedChar at h
    split_ifs at h
    · simp at h
    · simp at h
    · simp at h
    · simp at h
    · exact (List.mem_singleton.1 h).symm
    · exact absurd h hescape
  · rintro rfl
    decide

theorem escapeQuotes_eq_flatMap (t : Text) :
    escapeQuotes t = t.flatMap fun c => if c = '"' then ['\\', '"'] else [c] := by
  have hfrom : ∀ t : Text, replaceFrom ['"'] ['\\', '"'] 0 t =
      t.flatMap fun c => if c = '"' then ['\\', '"'] else [c] := by
    intro t
    induction t with
    | nil => rfl
    | cons c t ih =>
        rw [replaceFrom, List.flatMap_cons, ← ih]
        by_cases hc : c = '"'
        · simp [hc, List.isPrefixOf]
        · simp [hc, Ne.symm hc, List.isPrefixOf]
  exact hfrom t

theorem escapeQuotes_append (a b : Text) :
    escapeQuotes (a ++ b) = escapeQuotes a ++ escapeQuotes b := by
  simp [escapeQuotes_eq_flatMap]

theorem escapeQuotes_of_not_mem {t : Text} (h : '"' ∉ t) : escapeQuotes t = t := by
  induction t with
  | nil => rfl
  | cons c t ih =>
      simp only [List.mem_cons, not_or] at h
      rw [escapeQuotes_eq_flatMap, List.flatMap_cons, ← escapeQuotes_eq_flatMap, ih h.2,
        if_neg (Ne.symm h.1)]
      rfl

/-- A character as both passes write it. -/
def escapedChar (c : Char) : Text := if c = '"' then ['\\', '"'] else encodedChar c

theorem escapeQuotes_encodedChar (c : Char) : escapeQuotes (encodedChar c) = escapedChar c := by
  unfold escapedChar
  split
  · next hc =>
      subst hc
      decide
  · next hc => exact escapeQuotes_of_not_mem (mt quote_mem_encodedChar_iff.1 hc)

/-- The two passes come to one: the second leaves the escapes of the first as they are. -/
theorem escaped_eq_flatMap (line : Text) : escaped line = line.flatMap escapedChar := by
  unfold escaped encoded
  induction line with
  | nil => rfl
  | cons c line ih =>
      rw [List.flatMap_cons, List.flatMap_cons, escapeQuotes_append, escapeQuotes_encodedChar, ih]

/-- A character is written as one plain character or as one whole escape. -/
theorem Denotes.escapedChar (c : Char) (h : Denotes body text) :
    Denotes (escapedChar c ++ body) (c :: text) := by
  have hletters : ∀ p ∈ letters, Literal.escapedChar p.2 = ['\\', p.1] := by decide
  by_cases hletter : ∃ l, (l, c) ∈ letters
  · obtain ⟨l, known⟩ := hletter
    rw [hletters (l, c) known]
    exact .letter known h
  · simp only [letters, List.mem_cons, Prod.mk.injEq, List.not_mem_nil, or_false, not_exists, not_or,
      not_and] at hletter
    obtain ⟨l, width, known, hwidth, hc, hcode⟩ := exists_codeEscape_eq c
    have hquote : c ≠ '"' := (hletter '"').2.1 rfl
    have hbackslash : c ≠ '\\' := (hletter '\\').1 rfl
    unfold Literal.escapedChar encodedChar
    rw [if_neg hquote, if_neg hbackslash, if_neg ((hletter 'n').2.2.1 rfl),
      if_neg ((hletter 'r').2.2.2.1 rfl), if_neg ((hletter 't').2.2.2.2 rfl)]
    split
    · next htyped =>
        simp only [Bool.and_eq_true, decide_eq_true_eq] at htyped
        exact .plain htyped hquote hbackslash h
    · rw [hcode]
      exact .code known (length_hexDigits hwidth hc) (hexNumber?_hexDigits width _) h

theorem denotes_escaped (line : Text) : Denotes (escaped line) line := by
  rw [escaped_eq_flatMap]
  induction line with
  | nil => exact .nil
  | cons c line ih =>
      rw [List.flatMap_cons]
      exact ih.escapedChar c

/-! ### The whole literal -/

theorem Denotes.head?_ne (h : Denotes body text) : body.head? ≠ some '"' := by
  cases h with
  | nil => simp
  | plain typed quote backslash rest => simpa using quote
  | letter known rest => simp
  | code known length value rest => simp

/-- The inside of a literal is its body, since the quote before it is no threefold one. -/
theorem Denotes.inside_eq (h : Denotes body text) : Script.inside ('"' :: (body ++ ['"'])) = body := by
  cases body with
  | nil => rfl
  | cons c rest =>
      have hc : c ≠ '"' := by simpa using h.head?_ne
      simp [Script.inside, hc]

/-- **A line is written as the body of a literal that denotes it.** The body consists of printable ASCII
characters. It is made of plain characters and whole escapes, and denotes the line and nothing else. The
first quote that closes it is the one put behind it, and the literal is read back as the characters of the
line. -/
theorem escaped_line_read_back (line : Text) :
    (∀ c ∈ escaped line, 32 ≤ c.toNat ∧ c.toNat < 127) ∧
    (∀ text, Denotes (escaped line) text ↔ text = line) ∧
    (∀ rest, Script.closingQuote '"' 1 0 0 (escaped line ++ '"' :: rest) =
      .ok ((escaped line).length + 1)) ∧
    Script.textValue ('"' :: (escaped line ++ ['"'])) = .ok (some (line.map .char)) := by
  have h := denotes_escaped line
  have hread := h.unescape_eq 0
  refine ⟨h.isPlainAscii, fun text => ⟨fun htext => ?_, ?_⟩, fun rest => ?_, ?_⟩
  · have hpoints := Except.ok.inj ((htext.unescape_eq 0).symm.trans hread)
    exact List.map_injective_iff.2 (fun _ _ => Point.char.inj) hpoints
  · rintro rfl
    exact h
  · rw [h.closingQuote_eq, Nat.zero_add]
  · unfold Script.textValue
    rw [h.inside_eq, hread]
    rfl

/-- A backslash before a quote, a line feed, a control character and one character for each of the three
widths of code points, with a quote at the end. -/
theorem escaped_line_read_back_mixed :
    let line := "a\\\"\n\x07é⦅😀\"".toList
    escaped line = "a\\\\\\\"\\n\\x07\\xe9\\u2985\\U0001f600\\\"".toList ∧
    '\\' ∈ escaped line ∧ (32 ≤ '\\'.toNat ∧ '\\'.toNat < 127) ∧
    Denotes (escaped line) line ∧
    Script.textValue ('"' :: (escaped line ++ ['"'])) = .ok (some (line.map .char)) := by
  intro line
  have hmem : '\\' ∈ escaped line := by decide +kernel
  obtain ⟨htyped, hdenotes, -, hvalue⟩ := escaped_line_read_back line
  exact ⟨by decide +kernel, hmem, htyped '\\' hmem, (hdenotes line).2 rfl, hvalue⟩

end Literal
end Literate
