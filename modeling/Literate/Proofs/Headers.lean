import Mathlib
import Literate.Proofs.Fences
import Literate.Proofs.Texts

/-! # Fence headers as they are written

A header can be written with any number of spaces before and after its language (`Header.written`). The
parts run into each other where one of them is missing: a lone name would be read as a language, and
what follows the header can continue its name. Where neither happens, the header is read back from what
is written (`parse?_written_block`, `parse?_written_extension`), whatever follows.

The other way round, every fence line starts with the header that is read from it
(`exists_written_of_parse?`). The name of a block goes on as far as it can; extension code has no name, and
nothing behind its mark is read. -/

namespace Literate

/-! ### Spaces -/

namespace Text

theorem takeWhile_space (t : Text) :
    t.takeWhile (· == ' ') = List.replicate (t.takeWhile (· == ' ')).length ' ' := by
  refine List.eq_replicate_length.2 fun c hc => ?_
  simpa using List.mem_takeWhile_imp hc

theorem forall_mem_spaces (n : Nat) : ∀ c ∈ List.replicate n ' ', (c == ' ') = true := by
  intro c hc
  simp [(List.mem_replicate.1 hc).2]

end Text

namespace Fence.Header

open Text

/-! ### Writing -/

/-- The mark between the language and the name. -/
def mark (header : Header) : Text :=
  match header.role with
  | .extension => ['!']
  | .block true _ => ['=']
  | .block false _ => []

/-- A fence line up to the end of its header, with spaces before and after the language. -/
def written (before after : Nat) (header : Header) : Text :=
  header.indent ++ (marker ++ (List.replicate before ' ' ++ (header.language ++
    (List.replicate after ' ' ++ (header.mark ++ header.name)))))

/-! ### Reading what is written -/

section

variable {extensionLanguage indent language tail : Text}

theorem ne_space_of_isWordChar {c : Char} (h : isWordChar c = true) : (c == ' ') = false := by
  rw [beq_eq_false_iff_ne]
  rintro rfl
  cases h

/-- Spaces, a language and spaces are read up to a tail that continues none of them. -/
theorem ofRest_spaced (before after : Nat) (hlanguage : ∀ c ∈ language, isWordChar c = true)
    (hspace : ∀ c ∈ tail.head?, c ≠ ' ')
    (hword : after = 0 ∨ language = [] → ∀ c ∈ tail.head?, isWordChar c = false) :
    ofRest extensionLanguage indent
        (List.replicate before ' ' ++ (language ++ (List.replicate after ' ' ++ tail))) =
      ⟨indent, language, roleOf extensionLanguage language tail⟩ := by
  have htail : (List.replicate after ' ' ++ tail).dropWhile (· == ' ') = tail :=
    dropWhile_run (forall_mem_spaces after) fun c hc => by simpa using hspace c hc
  cases language with
  | nil =>
      have hspaces : (List.replicate before ' ' ++ (List.replicate after ' ' ++ tail)).dropWhile
          (· == ' ') = tail := by
        rw [List.dropWhile_append_of_pos (forall_mem_spaces before), htail]
      have hnone : ([] ++ tail).takeWhile isWordChar = [] :=
        takeWhile_run (by simp) (hword (.inr rfl))
      have hkept : ([] ++ tail).dropWhile isWordChar = tail :=
        dropWhile_run (by simp) (hword (.inr rfl))
      rw [List.nil_append] at hnone hkept
      have hstay : tail.dropWhile (· == ' ') = tail := by
        rw [← htail, List.dropWhile_idempotent]
      simp only [ofRest, List.nil_append, hspaces, hnone, hkept, hstay]
  | cons c cs =>
      have hspaces : (List.replicate before ' ' ++
          ((c :: cs) ++ (List.replicate after ' ' ++ tail))).dropWhile (· == ' ') =
            (c :: cs) ++ (List.replicate after ' ' ++ tail) :=
        dropWhile_run (forall_mem_spaces before) (by
          rintro d ⟨⟩
          exact ne_space_of_isWordChar (hlanguage c List.mem_cons_self))
      have hend : ∀ d ∈ (List.replicate after ' ' ++ tail).head?, isWordChar d = false := by
        cases after with
        | zero => simpa using hword (.inl rfl)
        | succ n =>
            rintro d ⟨⟩
            rfl
      simp only [ofRest, hspaces, takeWhile_run hlanguage hend, dropWhile_run hlanguage hend, htail]

theorem roleOf_plain (hextension : tail.head? ≠ some '!') (hreplace : tail.head? ≠ some '=') :
    roleOf extensionLanguage language tail = .block false (tail.takeWhile isNameChar) := by
  simp [roleOf, hextension, hreplace]

/-- A written header is read up to its mark; what the mark and the text behind it mean is a matter of its
role alone. -/
theorem parse?_written_append (extensionLanguage : Text) {header : Header} {rest : Text}
    (before after : Nat) (hindent : ∀ c ∈ header.indent, isIndent c = true)
    (hlanguage : ∀ c ∈ header.language, isWordChar c = true)
    (hspace : ∀ c ∈ (header.mark ++ (header.name ++ rest)).head?, c ≠ ' ')
    (hword : after = 0 ∨ header.language = [] →
      ∀ c ∈ (header.mark ++ (header.name ++ rest)).head?, isWordChar c = false) :
    parse? extensionLanguage (header.written before after ++ rest) =
      some ⟨header.indent, header.language,
        roleOf extensionLanguage header.language (header.mark ++ (header.name ++ rest))⟩ := by
  refine parse?_eq_some_iff.2 ⟨header.indent, _, hindent, ?_,
    (ofRest_spaced before after hlanguage hspace hword).symm⟩
  simp only [written, List.append_assoc]

/-- A line with the written header of a block is read as that header, unless a lone name is taken for a
language or what follows is taken for a part of the header. -/
theorem parse?_written_block (extensionLanguage : Text) {indent language name rest : Text}
    (replacing : Bool) (before after : Nat) (hindent : ∀ c ∈ indent, isIndent c = true)
    (hlanguage : ∀ c ∈ language, isWordChar c = true) (hname : ∀ c ∈ name, isNameChar c = true)
    (hstart : language ≠ [] ∨ replacing = true ∨ name = [] ∨ name.head? = some '-')
    (hend : ∀ c ∈ rest.head?, isNameChar c = false)
    (hopen : name = [] → replacing = false → ∀ c ∈ rest.head?, c ≠ ' ' ∧ c ≠ '=' ∧ c ≠ '!') :
    parse? extensionLanguage
        (written before (after + 1) ⟨indent, language, .block replacing name⟩ ++ rest) =
      some ⟨indent, language, .block replacing name⟩ := by
  have htaken : (name ++ rest).takeWhile isNameChar = name := takeWhile_run hname hend
  cases replacing with
  | true =>
      rw [parse?_written_append extensionLanguage before (after + 1) hindent hlanguage
        (by rintro c ⟨⟩; decide) (by rintro - c ⟨⟩; rfl)]
      simp [roleOf, mark, Header.name, htaken]
  | false =>
      -- The character behind the spaces belongs to the name, or to what follows an empty one.
      have hhead : ∀ c ∈ (name ++ rest).head?, c ≠ ' ' ∧ c ≠ '=' ∧ c ≠ '!' := by
        cases name with
        | nil => exact hopen rfl rfl
        | cons n ns =>
            rintro c ⟨⟩
            have hn := hname n List.mem_cons_self
            refine ⟨?_, ?_, ?_⟩ <;> rintro rfl <;> cases hn
      have hword : language = [] → ∀ c ∈ (name ++ rest).head?, isWordChar c = false := by
        intro hempty c hc
        cases name with
        | nil =>
            have hc' := hend c hc
            simp only [isNameChar, Bool.or_eq_false_iff] at hc'
            exact hc'.1
        | cons n ns =>
            have hdash : n = '-' := by simpa [hempty] using hstart
            obtain rfl : n = c := by simpa using hc
            rw [hdash]
            rfl
      have hrole : roleOf extensionLanguage language (name ++ rest) = .block false name := by
        rw [roleOf_plain (fun h => (hhead _ h).2.2 rfl) (fun h => (hhead _ h).2.1 rfl), htaken]
      rw [parse?_written_append extensionLanguage before (after + 1) hindent hlanguage
        (fun c hc => (hhead c hc).1) (fun h => hword (h.resolve_left (Nat.succ_ne_zero after)))]
      exact congrArg (fun role => some (Header.mk indent language role)) hrole

/-- The extension language and an exclamation mark announce extension code, whatever follows. -/
theorem parse?_written_extension {indent language : Text} (rest : Text) (before after : Nat)
    (hindent : ∀ c ∈ indent, isIndent c = true) (hlanguage : ∀ c ∈ language, isWordChar c = true)
    (hne : language ≠ []) :
    parse? language (written before after ⟨indent, language, .extension⟩ ++ rest) =
      some ⟨indent, language, .extension⟩ := by
  rw [parse?_written_append language before after hindent hlanguage
    (by rintro c ⟨⟩; decide) (by rintro - c ⟨⟩; rfl)]
  simp [roleOf, mark, hne]

end

/-! ### Writing what was read -/

variable {extensionLanguage line : Text} {header : Header}

/-- A role is read from its mark and its name; a name is read as far as it goes. -/
theorem exists_rest_of_roleOf (extensionLanguage indent language tail : Text) :
    ∃ rest, tail = mark ⟨indent, language, roleOf extensionLanguage language tail⟩ ++
        (name ⟨indent, language, roleOf extensionLanguage language tail⟩ ++ rest) ∧
      (roleOf extensionLanguage language tail ≠ .extension →
        ∀ c ∈ rest.head?, isNameChar c = false) := by
  unfold roleOf
  split
  · next hextension =>
      simp only [Bool.and_eq_true, decide_eq_true_eq] at hextension
      obtain ⟨cs, rfl⟩ := List.head?_eq_some_iff.1 hextension.2
      exact ⟨cs, rfl, fun h => absurd rfl h⟩
  · split
    · next hreplace =>
        obtain ⟨cs, rfl⟩ := List.head?_eq_some_iff.1 hreplace
        exact ⟨cs.dropWhile isNameChar, by simp [mark, name], fun _ => eq_false_of_head?_dropWhile⟩
    · exact ⟨tail.dropWhile isNameChar, by simp [mark, name], fun _ => eq_false_of_head?_dropWhile⟩

theorem name_of_parse? (h : parse? extensionLanguage line = some header) :
    ∀ c ∈ header.name, isNameChar c = true := by
  obtain ⟨indent, rest, -, -, rfl⟩ := parse?_eq_some_iff.1 h
  unfold ofRest roleOf
  intro c hc
  dsimp only at hc
  split at hc
  · cases hc
  · split at hc <;> exact List.mem_takeWhile_imp hc

theorem name_of_isExtension (h : header.isExtension = true) : header.name = [] := by
  have hrole : header.role = .extension := of_decide_eq_true h
  simp [name, hrole]

/-- A fence line starts with its header as it is written, and the name of a block ends where no more
characters of a name follow. -/
theorem exists_written_of_parse? (h : parse? extensionLanguage line = some header) :
    ∃ before after rest, line = header.written before after ++ rest ∧
      (header.isExtension = false → ∀ c ∈ rest.head?, isNameChar c = false) := by
  obtain ⟨indent, text, -, rfl, rfl⟩ := parse?_eq_some_iff.1 h
  let afterSpaces := text.dropWhile (· == ' ')
  let afterLanguage := afterSpaces.dropWhile isWordChar
  obtain ⟨rest, hrest, hend⟩ := exists_rest_of_roleOf extensionLanguage indent
    (afterSpaces.takeWhile isWordChar) (afterLanguage.dropWhile (· == ' '))
  refine ⟨(text.takeWhile (· == ' ')).length, (afterLanguage.takeWhile (· == ' ')).length, rest, ?_,
    fun hblock => hend (of_decide_eq_false hblock)⟩
  have htext : text = text.takeWhile (· == ' ') ++ (afterSpaces.takeWhile isWordChar ++
      (afterLanguage.takeWhile (· == ' ') ++ afterLanguage.dropWhile (· == ' '))) := by
    rw [List.takeWhile_append_dropWhile, List.takeWhile_append_dropWhile,
      List.takeWhile_append_dropWhile]
  rw [takeWhile_space text, takeWhile_space afterLanguage, hrest] at htext
  simp only [written, List.append_assoc]
  exact congrArg (fun t => indent ++ (marker ++ t)) htext

/-- A header that is written so that its parts stay apart is read back as it is, and every fence line
starts with the header that is read from it. The name of a block is read as far as it goes; extension code
has no name. -/
theorem header_read_back (extensionLanguage : Text) :
    (∀ (indent language name rest : Text) (replacing : Bool) (before after : Nat),
      (∀ c ∈ indent, isIndent c = true) → (∀ c ∈ language, isWordChar c = true) →
      (∀ c ∈ name, isNameChar c = true) →
      (language ≠ [] ∨ replacing = true ∨ name = [] ∨ name.head? = some '-') →
      (∀ c ∈ rest.head?, isNameChar c = false) →
      (name = [] → replacing = false → ∀ c ∈ rest.head?, c ≠ ' ' ∧ c ≠ '=' ∧ c ≠ '!') →
      parse? extensionLanguage
          (written before (after + 1) ⟨indent, language, .block replacing name⟩ ++ rest) =
        some ⟨indent, language, .block replacing name⟩) ∧
    (∀ (indent rest : Text) (before after : Nat), (∀ c ∈ indent, isIndent c = true) →
      (∀ c ∈ extensionLanguage, isWordChar c = true) → extensionLanguage ≠ [] →
      parse? extensionLanguage
          (written before after ⟨indent, extensionLanguage, .extension⟩ ++ rest) =
        some ⟨indent, extensionLanguage, .extension⟩) ∧
    ∀ line header, parse? extensionLanguage line = some header →
      (∀ c ∈ header.indent, isIndent c = true) ∧ (∀ c ∈ header.language, isWordChar c = true) ∧
      (∀ c ∈ header.name, isNameChar c = true) ∧
      ∃ before after rest, line = header.written before after ++ rest ∧
        if header.isExtension then header.name = []
        else ∀ c ∈ rest.head?, isNameChar c = false := by
  refine ⟨?_, ?_, ?_⟩
  · intro indent language name rest replacing before after hindent hlanguage hname hstart hend hopen
    exact parse?_written_block extensionLanguage replacing before after hindent hlanguage hname hstart
      hend hopen
  · intro indent rest before after hindent hlanguage hne
    exact parse?_written_extension rest before after hindent hlanguage hne
  · intro line header h
    obtain ⟨before, after, rest, hline, hend⟩ := exists_written_of_parse? h
    refine ⟨indent_of_parse? h, language_of_parse? h, name_of_parse? h, before, after, rest, hline, ?_⟩
    split
    · next hextension => exact name_of_isExtension hextension
    · next hblock => exact hend (Bool.eq_false_iff.2 hblock)

theorem header_read_back_mixed :
    parse? "python".toList "\t```  python  =setup-code(old)\n".toList =
      some ⟨['\t'], "python".toList, .block true "setup-code".toList⟩ ∧
    parse? "python".toList "``` -x=y".toList = some ⟨[], [], .block false "-x".toList⟩ ∧
    parse? "python".toList " ```python!x".toList = some ⟨[' '], "python".toList, .extension⟩ ∧
    ∃ before after rest, " ```python!x".toList =
      written before after ⟨[' '], "python".toList, .extension⟩ ++ rest := by
  obtain ⟨hblock, hextension, hwritten⟩ := header_read_back "python".toList
  have hthird := hextension [' '] ['x'] 0 0 (List.all_eq_true.1 rfl) (List.all_eq_true.1 rfl) nofun
  obtain ⟨-, -, -, before, after, rest, hline, -⟩ := hwritten _ _ hthird
  refine ⟨?_, ?_, hthird, before, after, rest, hline⟩
  · exact hblock ['\t'] "python".toList "setup-code".toList "(old)\n".toList true 2 1
      (List.all_eq_true.1 rfl) (List.all_eq_true.1 rfl) (List.all_eq_true.1 rfl) (.inl nofun)
      (by rintro c ⟨⟩; rfl) nofun
  · exact hblock [] [] "-x".toList "=y".toList false 0 0
      (List.all_eq_true.1 rfl) (List.all_eq_true.1 rfl) (List.all_eq_true.1 rfl)
      (.inr (.inr (.inr rfl))) (by rintro c ⟨⟩; rfl) nofun

/-- Behind the mark of extension code a name may follow that is not read. -/
theorem extension_name_unread :
    ∃ header, parse? "python".toList "``` python !x".toList = some header ∧
      ∀ before after rest, "``` python !x".toList = header.written before after ++ rest →
        ∃ c ∈ rest.head?, isNameChar c = true := by
  refine ⟨⟨[], "python".toList, .extension⟩, rfl, ?_⟩
  intro before after rest h
  have hdrop : "``` python !x".toList.dropWhile (· != '!') = '!' :: rest := by
    rw [h]
    simp [written, mark, name, marker, List.dropWhile_append_of_pos]
  obtain rfl : ['x'] = rest := (List.cons.inj hdrop).2
  exact ⟨'x', rfl, rfl⟩

end Fence.Header
end Literate
