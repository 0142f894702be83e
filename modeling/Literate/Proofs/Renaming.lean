import Mathlib
import Literate.Proofs.Registered
import Literate.Proofs.Texts

/-! # Renaming blocks

The blocks of a table can be given other names, in the table and in every reference to them, and lines
expand to what they expanded to before (`expand_renamed`).

A renamed line is put together from the segments of the line, its references written anew, so it must
be cut into the same segments again (`scan_rename`). This does not follow from the literal spans alone:
an opening delimiter in one of them stands for itself only because of the text behind it, and that may
have changed. But whether a reference begins at an opening delimiter is settled by the text up to the
next delimiter (`read?_eq_none_of_sameStart`), and so far a renamed text goes with the old one
(`sameStart_rename`). -/

namespace Literate

open Text

/-! ### Parts between bars -/

namespace Text

theorem splitAtChar_eq_splitOn (sep : Char) : ∀ t : Text, splitAtChar sep t = t.splitOn sep
  | [] => by
      rw [List.splitOn_nil]
      rfl
  | c :: cs => by
      have ih := splitAtChar_eq_splitOn sep cs
      unfold List.splitOn at ih ⊢
      rw [splitAtChar, List.splitOnP_cons_eq_if_modifyHead, ih]
      by_cases hc : c = sep
      · simp [hc]
      · rw [if_neg hc, if_neg (by simpa using hc)]
        cases hparts : cs.splitOnP (· == sep) with
        | nil => exact absurd hparts (List.splitOnP_ne_nil _ _)
        | cons part parts => rfl

/-- Parts joined by a character that none of them holds are found again. -/
theorem splitAtChar_joinWith {sep : Char} {parts : List Text} (hne : parts ≠ [])
    (h : ∀ part ∈ parts, sep ∉ part) : splitAtChar sep (joinWith [sep] parts) = parts := by
  rw [splitAtChar_eq_splitOn]
  exact List.splitOn_intercalate sep h hne

theorem mem_of_mem_splitAtChar {sep c : Char} : ∀ {t part : Text}, part ∈ splitAtChar sep t →
    c ∈ part → c ∈ t ∧ c ≠ sep
  | [], part, hpart, hc => by
      obtain rfl := List.mem_singleton.1 hpart
      cases hc
  | d :: cs, part, hpart, hc => by
      have ih := @mem_of_mem_splitAtChar sep c cs
      have hlater : ∀ {other : Text}, other ∈ splitAtChar sep cs → c ∈ other → c ∈ d :: cs ∧ c ≠ sep :=
        fun hother hc => ⟨List.mem_cons_of_mem _ (ih hother hc).1, (ih hother hc).2⟩
      unfold splitAtChar at hpart
      split at hpart
      · rcases List.mem_cons.1 hpart with rfl | hpart
        · cases hc
        · exact hlater hpart hc
      · next hd =>
          cases hparts : splitAtChar sep cs with
          | nil =>
              rw [splitAtChar_eq_splitOn] at hparts
              exact absurd hparts (List.splitOnP_ne_nil _ _)
          | cons first rest =>
              rw [hparts] at hpart hlater
              rcases List.mem_cons.1 hpart with rfl | hpart
              · rcases List.mem_cons.1 hc with rfl | hc
                · exact ⟨List.mem_cons_self, hd⟩
                · exact hlater List.mem_cons_self hc
              · exact hlater (List.mem_cons_of_mem _ hpart) hc

theorem mem_of_mem_joinWith {sep c : Char} : ∀ {parts : List Text}, c ∈ joinWith [sep] parts →
    c = sep ∨ ∃ part ∈ parts, c ∈ part
  | [], h => by cases h
  | [part], h => by
      unfold joinWith at h
      rw [List.intercalate_singleton] at h
      exact .inr ⟨part, List.mem_cons_self, h⟩
  | part :: next :: parts, h => by
      unfold joinWith at h
      rw [List.intercalate_cons_cons, List.mem_append, List.mem_append, List.mem_singleton] at h
      rcases h with (h | h) | h
      · exact .inr ⟨part, List.mem_cons_self, h⟩
      · exact .inl h
      · rcases mem_of_mem_joinWith h with h | ⟨other, hother, h⟩
        · exact .inl h
        · exact .inr ⟨other, List.mem_cons_of_mem _ hother, h⟩

end Text

/-! ### Writing a reference -/

namespace Reference

/-- A name or a filter between two bars, without the white space around it. It may be empty. -/
structure IsPart (part : Text) : Prop where
  stripped : strip part = part
  token : ∀ c ∈ part, isTokenChar c = true ∧ c ≠ '|'

theorem IsName.isPart {name : Text} (h : IsName name) : IsPart name := ⟨h.stripped, h.token⟩

theorem parts_of_parse? {inner : Text} {r : Reference} (h : parse? inner = some r) :
    IsName r.name ∧ ∀ part ∈ r.filters, IsPart part := by
  have htoken := isTokenChar_of_parse? h
  have hpart : ∀ part ∈ (splitAtChar '|' inner).map strip, IsPart part := by
    intro part hpart
    obtain ⟨piece, hpiece, rfl⟩ := List.mem_map.1 hpart
    refine ⟨strip_strip piece, fun c hc => ?_⟩
    obtain ⟨hc, hbar⟩ := mem_of_mem_splitAtChar hpiece (mem_of_mem_strip hc)
    exact ⟨htoken c hc, hbar⟩
  unfold parse? at h
  rw [if_pos (List.all_eq_true.2 htoken)] at h
  cases hparts : (splitAtChar '|' inner).map strip with
  | nil => simp [hparts] at h
  | cons name filters =>
      rw [hparts, List.forall_mem_cons] at hpart
      simp only [hparts] at h
      split at h
      · cases h
      · next hne =>
          cases h
          exact ⟨⟨by simpa using hne, hpart.1.stripped, hpart.1.token⟩, hpart.2⟩

/-- Parts between bars are read without the white space around them. -/
theorem parse?_joinWith_strip {name : Text} {filters : List Text} (hname : strip name ≠ [])
    (htoken : ∀ part ∈ name :: filters, ∀ c ∈ part, isTokenChar c = true ∧ c ≠ '|') :
    parse? (joinWith ['|'] (name :: filters)) =
      some { name := strip name, filters := filters.map strip } := by
  have hall : (joinWith ['|'] (name :: filters)).all isTokenChar = true := by
    refine List.all_eq_true.2 fun c hc => ?_
    rcases mem_of_mem_joinWith hc with rfl | ⟨part, hpart, hc⟩
    · rfl
    · exact (htoken part hpart c hc).1
  have hsplit : splitAtChar '|' (joinWith ['|'] (name :: filters)) = name :: filters :=
    splitAtChar_joinWith (List.cons_ne_nil _ _) fun part hpart hbar => (htoken part hpart _ hbar).2 rfl
  have hne : (strip name).isEmpty = false := by simpa using hname
  unfold parse?
  rw [if_pos hall, hsplit]
  simp [hne]

theorem parse?_joinWith {name : Text} {filters : List Text} (hname : IsName name)
    (hfilters : ∀ part ∈ filters, IsPart part) :
    parse? (joinWith ['|'] (name :: filters)) = some { name, filters } := by
  have hparts : ∀ part ∈ name :: filters, IsPart part :=
    List.forall_mem_cons.2 ⟨hname.isPart, hfilters⟩
  have hstrip : filters.map strip = filters :=
    (List.map_congr_left fun part hpart => (hfilters part hpart).stripped).trans (List.map_id _)
  have hnonempty : strip name ≠ [] := by
    rw [hname.stripped]
    exact hname.nonempty
  rw [parse?_joinWith_strip hnonempty fun part hpart => (hparts part hpart).token, hstrip, hname.stripped]

/-- A way to write what stands between two delimiters. -/
structure Spelling where
  inner : Text → List Text → Text
  parse?_inner : ∀ {name filters}, IsName name → (∀ part ∈ filters, IsPart part) →
    parse? (inner name filters) = some { name, filters }

/-- The name and the filters with bars between them. -/
def Spelling.barred : Spelling where
  inner name filters := joinWith ['|'] (name :: filters)
  parse?_inner := parse?_joinWith

/-- The reference with another name, written anew. -/
def rename (spelling : Spelling) (f : Text → Text) (r : Reference) : Reference :=
  { r with
    name := f r.name
    raw := '⦅' :: spelling.inner (f r.name) r.filters ++ ['⦆'] }

variable {spelling : Spelling} {f : Text → Text}

theorem isTokenChar_opening : isTokenChar '⦅' = false := by decide +kernel

theorem isTokenChar_closing : isTokenChar '⦆' = false := by decide +kernel

theorem read?_rename (hf : ∀ name, IsName name → IsName (f name)) {t after : Text} {r : Reference}
    (h : read? {} ('⦅' :: t) = some (r, after)) (rest : Text) :
    read? {} ((r.rename spelling f).raw ++ rest) = some (r.rename spelling f, rest) := by
  obtain ⟨inner, s, -, -, hs, rfl⟩ := (read?_eq_some_iff rfl rfl).1 h
  obtain ⟨hname, hfilters⟩ := parts_of_parse? hs
  have hparse := spelling.parse?_inner (hf _ hname) hfilters
  have hclosed : '⦆' ∉ spelling.inner (f s.name) s.filters := by
    intro hm
    have htoken := isTokenChar_of_parse? hparse _ hm
    rw [isTokenChar_closing] at htoken
    cases htoken
  have htext : (rename spelling f { s with raw := '⦅' :: inner ++ ['⦆'] }).raw ++ rest =
      '⦅' :: (spelling.inner (f s.name) s.filters ++ '⦆' :: rest) := by
    simp [rename]
  rw [htext]
  exact (read?_eq_some_iff rfl rfl).2 ⟨_, _, rfl, hclosed, hparse, rfl⟩

/-! ### Texts up to the next delimiter -/

/-- The two texts are the same up to the first delimiter, and that is the same too. -/
inductive SameStart : Text → Text → Prop where
  | nil : SameStart [] []
  | delimiter {c : Char} (h : isTokenChar c = false) (a b : Text) : SameStart (c :: a) (c :: b)
  | cons (c : Char) {a b : Text} (h : SameStart a b) : SameStart (c :: a) (c :: b)

theorem SameStart.head? {a b : Text} (h : SameStart a b) : a.head? = b.head? := by
  cases h <;> rfl

/-- What stands before a closing delimiter in one of the texts, if it may stand in a reference, does so in
the other. -/
theorem SameStart.append {inner after : Text} (hinner : ∀ c ∈ inner, isTokenChar c = true) :
    ∀ {a : Text}, SameStart a (inner ++ '⦆' :: after) → ∃ after', a = inner ++ '⦆' :: after' := by
  induction inner with
  | nil =>
      intro a h
      cases h with
      | delimiter _ a => exact ⟨a, rfl⟩
      | @cons _ a _ h => exact ⟨a, rfl⟩
  | cons c inner ih =>
      intro a h
      rw [List.forall_mem_cons] at hinner
      cases h with
      | delimiter hc => rw [hinner.1] at hc; cases hc
      | cons _ h =>
          obtain ⟨after', rfl⟩ := ih hinner.2 h
          exact ⟨after', rfl⟩

/-- Whether a reference begins at an opening delimiter is settled up to the next delimiter. -/
theorem read?_eq_none_of_sameStart {a b : Text} (hsame : SameStart a b)
    (h : read? {} ('⦅' :: a) = none) : read? {} ('⦅' :: b) = none := by
  refine Option.eq_none_iff_forall_ne_some.2 fun p hp => ?_
  obtain ⟨r, after⟩ := p
  obtain ⟨inner, s, rfl, hclosed, hs, -⟩ := (read?_eq_some_iff rfl rfl).1 hp
  obtain ⟨after', rfl⟩ := hsame.append (isTokenChar_of_parse? hs)
  have hread : read? {} ('⦅' :: (inner ++ '⦆' :: after')) =
      some ({ s with raw := '⦅' :: inner ++ ['⦆'] }, after') :=
    (read?_eq_some_iff rfl rfl).2 ⟨inner, s, rfl, hclosed, hs, rfl⟩
  rw [h] at hread
  cases hread

end Reference

/-! ### Renamed segments -/

namespace Segment

open Reference

/-- The segment with the names of references changed. -/
def rename (spelling : Spelling) (f : Text → Text) : Segment → Segment
  | literal t => literal t
  | reference r => reference (r.rename spelling f)

variable {spelling : Spelling} {f : Text → Text}

theorem isSome_reference?_rename (s : Segment) :
    (s.rename spelling f).reference?.isSome = s.reference?.isSome := by
  cases s <;> rfl

theorem map_rename_of_quiet {segments : List Segment} (h : Quiet segments) :
    segments.map (rename spelling f) = segments := by
  refine (List.map_congr_left fun s hs => ?_).trans (List.map_id _)
  cases s with
  | literal t => rfl
  | reference r => cases h _ hs

theorem map_rename_pushChar (c : Char) (segments : List Segment) :
    (pushChar c segments).map (rename spelling f) = pushChar c (segments.map (rename spelling f)) := by
  cases segments with
  | nil => rfl
  | cons s rest => cases s <;> rfl

/-- What the scan of a text can do first: it takes a character into a literal, or it reads a reference. -/
theorem scan_cons_cases (last : Option Char) (c : Char) (cs : Text) :
    (scan {} last (c :: cs) = pushChar c (scan {} (some c) cs) ∧
      (c = '⦅' → ({} : Delimiters).protectedBy last = true ∨ read? {} ('⦅' :: cs) = none)) ∨
    ∃ r after, c = '⦅' ∧ ({} : Delimiters).protectedBy last = false ∧
      read? {} ('⦅' :: cs) = some (r, after) ∧
      scan {} last (c :: cs) = .reference r :: scan {} (some '⦆') after := by
  by_cases hc : c = '⦅'
  · subst hc
    cases hp : ({} : Delimiters).protectedBy last with
    | true => exact .inl ⟨scan_cons_of_dead rfl (.inl hp), fun _ => .inl rfl⟩
    | false =>
        cases hr : read? {} ('⦅' :: cs) with
        | none => exact .inl ⟨scan_cons_of_dead rfl (.inr hr), fun _ => .inr rfl⟩
        | some p =>
            obtain ⟨r, after⟩ := p
            have hscan := scan_cons_of_live rfl hp hr
            obtain ⟨inner, s, -, -, -, rfl⟩ := (read?_eq_some_iff rfl rfl).1 hr
            rw [List.getLast?_append_of_ne_nil _ (by simp), List.getLast?_singleton] at hscan
            exact .inr ⟨_, after, rfl, rfl, rfl, hscan⟩
  · exact .inl ⟨scan_cons_of_ne rfl hc, fun h => absurd h hc⟩

/-- The text of segments after renaming. -/
def renamedText (spelling : Spelling) (f : Text → Text) (segments : List Segment) : Text :=
  (segments.map (rename spelling f)).flatMap raw

theorem renamedText_pushChar (c : Char) (segments : List Segment) :
    renamedText spelling f (pushChar c segments) = c :: renamedText spelling f segments := by
  unfold renamedText
  rw [map_rename_pushChar, flatMap_raw_pushChar]

theorem renamedText_reference (r : Reference) (segments : List Segment) :
    renamedText spelling f (.reference r :: segments) =
      (r.rename spelling f).raw ++ renamedText spelling f segments := rfl

/-- A text and what renaming makes of it are the same up to the first delimiter. -/
theorem sameStart_rename : ∀ (last : Option Char) (t : Text),
    SameStart t (renamedText spelling f (scan {} last t))
  | last, [] => by
      rw [scan]
      exact .nil
  | last, c :: cs => by
      rcases scan_cons_cases last c cs with ⟨hscan, -⟩ | ⟨r, after, rfl, -, -, hscan⟩
      · rw [hscan, renamedText_pushChar]
        exact .cons c (sameStart_rename (some c) cs)
      · rw [hscan, renamedText_reference]
        exact .delimiter isTokenChar_opening _ _

theorem scan_rename (hf : ∀ name, IsName name → IsName (f name)) (last : Option Char) (t : Text) :
    scan {} last (renamedText spelling f (scan {} last t)) =
      (scan {} last t).map (rename spelling f) := by
  match t with
  | [] =>
      rw [scan]
      exact scan.eq_1 _ _
  | c :: cs =>
      rcases scan_cons_cases last c cs with ⟨hscan, hdead⟩ | ⟨r, after, rfl, hp, hr, hscan⟩
      · have ih := scan_rename hf (some c) cs
        rw [hscan, renamedText_pushChar, map_rename_pushChar, ← ih]
        rcases scan_cons_cases last c (renamedText spelling f (scan {} (some c) cs)) with
          ⟨hscan', -⟩ | ⟨r, after, rfl, hp, hr, -⟩
        · exact hscan'
        -- an opening delimiter that began no reference begins none now
        · rcases hdead rfl with hprotected | hnone
          · rw [hp] at hprotected
            cases hprotected
          · rw [read?_eq_none_of_sameStart (sameStart_rename _ cs) hnone] at hr
            cases hr
      · have hshorter : after.length < cs.length + 1 := length_of_read? hr
        have ih := scan_rename hf (some '⦆') after
        have hread : read? {} ((r.rename spelling f).raw ++
            renamedText spelling f (scan {} (some '⦆') after)) = some (r.rename spelling f, _) :=
          read?_rename hf hr _
        rw [hscan, renamedText_reference, List.map_cons, ← ih]
        have hlive := scan_cons_of_live rfl hp hread
        rwa [show (r.rename spelling f).raw.getLast? = some '⦆' from List.getLast?_concat] at hlive
termination_by t.length

end Segment

namespace Expansion

open Reference

/-! ### Renamed lines and tables -/

section
variable {spelling : Spelling} {f : Text → Text}

/-- The line with its indentation and its literal spans kept, and the names of its references changed. -/
def renameLine (spelling : Spelling) (f : Text → Text) (line : Text) : Text :=
  line.takeWhile isIndent ++ Segment.renamedText spelling f (segmentsOf {} line)

/-- Behind the indentation of a renamed line stands no further indentation. -/
theorem not_isIndent_renamedText (line : Text) :
    ∀ c ∈ (Segment.renamedText spelling f (segmentsOf {} line)).head?, isIndent c = false := by
  intro c hc
  rw [segmentsOf, Segment.tokenize, ← (Segment.sameStart_rename none _).head?] at hc
  have hhead := List.head?_dropWhile_not isIndent line
  rw [Option.mem_def.1 hc] at hhead
  exact hhead

theorem takeWhile_renameLine (line : Text) :
    (renameLine spelling f line).takeWhile isIndent = line.takeWhile isIndent := by
  have hhead := @not_isIndent_renamedText spelling f line
  unfold renameLine
  rw [List.takeWhile_append_of_pos fun c hc => List.mem_takeWhile_imp hc]
  cases hrest : Segment.renamedText spelling f (segmentsOf {} line) with
  | nil => simp
  | cons c cs =>
      rw [hrest] at hhead
      rw [List.takeWhile_cons_of_neg (by simp [hhead c rfl]), List.append_nil]

theorem segmentsOf_renameLine (hf : ∀ name, IsName name → IsName (f name)) (line : Text) :
    segmentsOf {} (renameLine spelling f line) =
      (segmentsOf {} line).map (Segment.rename spelling f) := by
  have hhead := @not_isIndent_renamedText spelling f line
  have hdrop : (renameLine spelling f line).dropWhile isIndent =
      Segment.renamedText spelling f (segmentsOf {} line) := by
    unfold renameLine
    rw [List.dropWhile_append_of_pos fun c hc => List.mem_takeWhile_imp hc]
    cases hrest : Segment.renamedText spelling f (segmentsOf {} line) with
    | nil => rfl
    | cons c cs =>
        rw [hrest] at hhead
        exact List.dropWhile_cons_of_neg (by simp [hhead c rfl])
  rw [segmentsOf, hdrop]
  exact Segment.scan_rename hf none _

theorem renameLine_of_quiet {line : Text} (h : Segment.Quiet (segmentsOf {} line)) :
    renameLine spelling f line = line := by
  unfold renameLine Segment.renamedText
  rw [Segment.map_rename_of_quiet h]
  exact takeWhile_append_segments {} line

end

/-- Other names for the blocks of a table: different ones for different blocks, and names that can stand
in a reference. -/
structure Renaming (table : Table Text (List Text)) where
  new : Text → Text
  injective : ∀ a ∈ table.keys, ∀ b ∈ table.keys, new a = new b → a = b
  isName : ∀ a ∈ table.keys, IsName (new a)

namespace Renaming

variable {table : Table Text (List Text)} (ρ : Renaming table) (spelling : Spelling)

/-- The new form of a name; one that no block has stays as it is. -/
def name (name : Text) : Text := if name ∈ table.keys then ρ.new name else name

/-- The new form of a line. -/
def line (line : Text) : Text := renameLine spelling ρ.name line

/-- The table with new names, for its blocks and in their bodies. -/
def renamed : Table Text (List Text) :=
  table.map fun entry => (ρ.new entry.1, entry.2.map (ρ.line spelling))

theorem isName_name {name : Text} (h : IsName name) : IsName (ρ.name name) := by
  unfold Renaming.name
  split
  · next hmem => exact ρ.isName name hmem
  · exact h

variable {ρ spelling}

theorem get?_renamed {name : Text} {body : List Text} (h : table.get? name = some body) :
    (ρ.renamed spelling).get? (ρ.name name) = some (body.map (ρ.line spelling)) := by
  obtain ⟨before, after, htable, hbefore⟩ := List.lookup_eq_some_iff.1 h
  have hkey : ∀ entry ∈ table, entry.1 ∈ table.keys := fun entry hentry => List.mem_map_of_mem hentry
  have hname : name ∈ table.keys := hkey (name, body) (by simp [htable])
  have hnew : ρ.name name = ρ.new name := if_pos hname
  refine List.lookup_eq_some_iff.2 ⟨before.map fun entry => (ρ.new entry.1, entry.2.map (ρ.line spelling)),
    after.map fun entry => (ρ.new entry.1, entry.2.map (ρ.line spelling)), ?_, ?_⟩
  · rw [hnew]
    exact (congrArg (List.map _) htable).trans (by simp)
  · intro entry hentry
    obtain ⟨old, hold, rfl⟩ := List.mem_map.1 hentry
    have hother : name ≠ old.1 := by simpa using hbefore old hold
    have hmem : old.1 ∈ table.keys := hkey old (by simp [htable, hold])
    have hne : ρ.new name ≠ ρ.new old.1 := fun he => hother (ρ.injective _ hname _ hmem he)
    simpa [hnew] using hne

/-! ### Expansion under new names -/

variable {registry : Registry} {inner inner' : List Text → Except Fault (List Text)}

theorem segmentMeaning_rename
    (hinner : ∀ body out, inner body = .ok out → inner' (body.map (ρ.line spelling)) = .ok out)
    {line line' : Text} {s : Segment} {piece : Piece}
    (h : segmentMeaning table registry inner line s = .ok piece) :
    segmentMeaning (ρ.renamed spelling) registry inner' line' (s.rename spelling ρ.name) = .ok piece := by
  cases s with
  | literal t => exact h
  | reference r =>
      simp only [segmentMeaning] at h
      cases hbody : table.get? r.name with
      | none => simp [hbody] at h
      | some body =>
          simp only [hbody, Result.bind_eq_ok] at h
          obtain ⟨expanded, hexpanded, filtered, hfiltered, hpiece⟩ := h
          simp only [Segment.rename, Reference.rename, segmentMeaning, get?_renamed hbody,
            Result.bind_eq_ok]
          exact ⟨expanded, hinner body expanded hexpanded, filtered, hfiltered, hpiece⟩

theorem lineMeaning_rename
    (hinner : ∀ body out, inner body = .ok out → inner' (body.map (ρ.line spelling)) = .ok out)
    {line : Text} {out : List Text} (h : lineMeaning {} table registry inner line = .ok out) :
    lineMeaning {} (ρ.renamed spelling) registry inner' (ρ.line spelling line) = .ok out := by
  have hsegments : segmentsOf {} (ρ.line spelling line) =
      (segmentsOf {} line).map (Segment.rename spelling ρ.name) :=
    segmentsOf_renameLine (fun _ => ρ.isName_name) line
  have hindent : (ρ.line spelling line).takeWhile isIndent = line.takeWhile isIndent :=
    takeWhile_renameLine line
  unfold lineMeaning at h
  split at h
  · next href =>
      have href' : ((segmentsOf {} (ρ.line spelling line)).any fun s => s.reference?.isSome) = true := by
        rw [hsegments, List.any_map]
        simpa only [Function.comp_def, Segment.isSome_reference?_rename] using href
      obtain ⟨pieces, hpieces, hout⟩ := Result.bind_eq_ok.1 h
      unfold lineMeaning
      rw [if_pos href', hindent, hsegments, Result.bind_eq_ok]
      refine ⟨pieces, ?_, hout⟩
      rw [Result.mapM_eq_ok, List.forall₂_map_left_iff]
      exact (Result.mapM_eq_ok.1 hpieces).imp fun s piece hs => segmentMeaning_rename hinner hs
  · next href =>
      have hquiet : Segment.Quiet (segmentsOf {} line) := Segment.quiet_iff.2 (by simpa using href)
      have hline : ρ.line spelling line = line := renameLine_of_quiet hquiet
      rw [hline, lineMeaning_of_quiet hquiet]
      exact h

/-- What lines expand to over a table, the renamed lines expand to over the renamed table. -/
theorem meaning_rename : ∀ {budget : Nat} {depth : Int} {lines out : List Text},
    meaning {} table registry budget depth lines = .ok out →
    meaning {} (ρ.renamed spelling) registry budget depth (lines.map (ρ.line spelling)) = .ok out
  | 0, _, _, _, h => by cases h
  | budget + 1, depth, lines, out, h => by
      rw [meaning_eq_ok] at h ⊢
      obtain ⟨parts, hparts, rfl⟩ := h
      refine ⟨parts, ?_, rfl⟩
      rw [List.forall₂_map_left_iff]
      exact hparts.imp fun line part hline =>
        lineMeaning_rename (fun body out => meaning_rename) hline

end Renaming

/-- **Blocks can be renamed.** If lines expand over a table, then they expand to the same lines, within
the same bound, after the blocks have been given other names, in the table and in all references, however
the references are written then. -/
theorem expand_renamed {σ : Type} {filters : Filters σ} {I : σ → Prop} {registry : Registry}
    (hpure : filters.PureOn I registry) {s : σ} (hs : I s) {settings : Settings}
    (hdelimiters : settings.delimiters = {}) {stack : Nat} {table : Table Text (List Text)}
    (ρ : Renaming table) (spelling : Spelling) {lines out : List Text}
    (hok : ((expand settings stack (Scope.ofTable table filters) (.fixed lines)).run s).result =
      .ok out) :
    ((expand settings stack (Scope.ofTable (ρ.renamed spelling) filters)
      (.fixed (lines.map (ρ.line spelling)))).run s).result = .ok out := by
  have hfits := fits_of_expand hok
  rw [expand_result hpure hs hfits, hdelimiters] at hok ⊢
  exact Renaming.meaning_rename hok

/-- Two blocks exchange their names; the line that refers to them holds an unclosed delimiter, one that is
escaped and one that leads to no reference. -/
theorem expand_exchanged :
    let table : Table Text (List Text) := [(['a'], ["x\n".toList, "⦅ b ⦆".toList]), (['b'], [['y']])]
    let exchanged : Table Text (List Text) := [(['b'], ["x\n".toList, "⦅a⦆".toList]), (['a'], [['y']])]
    ((expand { maxMacroDepth := 2 } 9 (Scope.ofTable table Script.filters)
      (.fixed [" ⦅.⦆⦅⦅ a | add_comma⦆ \\⦅a⦆ ⦅b⦆ ⦅a".toList])).run
        (Script.Context.fresh [])).result =
      .ok [" ⦅.⦆⦅x,\n".toList, " y, \\⦅a⦆ y ⦅a".toList] ∧
    ((expand { maxMacroDepth := 2 } 9 (Scope.ofTable exchanged Script.filters)
      (.fixed [" ⦅.⦆⦅⦅b|add_comma⦆ \\⦅a⦆ ⦅a⦆ ⦅a".toList])).run
        (Script.Context.fresh [])).result =
      .ok [" ⦅.⦆⦅x,\n".toList, " y, \\⦅a⦆ y ⦅a".toList] := by
  intro table exchanged
  let ρ : Renaming table :=
    { new := fun name => if name = ['a'] then ['b'] else ['a']
      injective := by decide
      isName := by decide }
  refine (fun hok => ⟨hok, ?_⟩) (by decide +kernel)
  have htable : ρ.renamed .barred = exchanged := by decide +kernel
  have hline : [" ⦅.⦆⦅⦅ a | add_comma⦆ \\⦅a⦆ ⦅b⦆ ⦅a".toList].map (ρ.line .barred) =
      [" ⦅.⦆⦅⦅b|add_comma⦆ \\⦅a⦆ ⦅a⦆ ⦅a".toList] := by decide +kernel
  rw [← htable, ← hline]
  exact expand_renamed (Script.filters_pureOn (Script.Context.fresh_builtinFilters _).plain) rfl rfl ρ
    .barred hok

end Expansion
end Literate
