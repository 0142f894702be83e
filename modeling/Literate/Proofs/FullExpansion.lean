import Mathlib
import Literate.Proofs.Escape
import Literate.Proofs.WholeLines

/-! # Expansion leaves nothing to expand

When every opening delimiter begins a reference or is escaped (`Symbols.Settled`), the output of an
expansion has only escaped ones, so that there is no reference in it and expanding it again changes nothing
(`expand_settled`).

Texts of different blocks come to stand side by side in the output, and an escape at the end of one could
be parted from the delimiter it protects, or a delimiter left without one. What excludes this is an
invariant of the line in progress (`Expansion.Sealed`): if the next segment of the line relies on an escape
before it, the line in progress ends with that escape. A reference ends with the closing delimiter, so
nothing relies on what it is replaced by. One piece keeps the invariant (`Sealed.put_literal`,
`Sealed.put_lines`), hence all pieces of a line do, and then, level by level, whole bodies. -/

namespace Literate

open Text

/-! ### Protected texts -/

theorem Text.ne_of_isIndent {c e : Char} (he : isBlank e = false) (hc : isIndent c = true) : c ≠ e := by
  rintro rfl
  rw [isBlank_of_isIndent hc] at he
  cases he

namespace Segment

open Reference

variable {d : Delimiters} {o k : Char} {last last' : Option Char} {a b t : Text}
  {segments : List Segment}

instance decidableProtected : ∀ (last : Option Char) (t : Text), Decidable (Protected d o last t)
  | _, [] => inferInstanceAs (Decidable True)
  | last, c :: cs =>
    have := decidableProtected (some c) cs
    inferInstanceAs (Decidable ((c = o → d.protectedBy last = true) ∧ Protected d o (some c) cs))

/-- A text is protected behind another character if that one protects as well. -/
theorem Protected.mono (h : Protected d o last t)
    (hlast : d.protectedBy last = true → d.protectedBy last' = true) : Protected d o last' t := by
  cases t with
  | nil => trivial
  | cons c cs => exact ⟨fun hc => hlast (h.1 hc), h.2⟩

theorem Protected.of_none (h : Protected d o none t) : Protected d o last t :=
  h.mono fun hnone => by cases hnone

theorem protected_append : ∀ {last : Option Char} {a : Text},
    Protected d o last (a ++ b) ↔ Protected d o last a ∧ Protected d o (a.getLast?.or last) b
  | last, [] => by simp [Protected]
  | last, c :: cs => by
      rw [List.cons_append, Protected, Protected, protected_append, and_assoc, getLast?_cons_or]

theorem protected_of_not_mem (h : o ∉ t) : Protected d o last t := by
  induction t generalizing last with
  | nil => trivial
  | cons c cs ih =>
      rw [List.mem_cons, not_or] at h
      exact ⟨fun hc => absurd hc.symm h.1, ih h.2⟩

theorem protected_iff : Protected d o last t ↔ ∀ before after, t = before ++ o :: after →
    d.protectedBy (before.getLast?.or last) = true := by
  constructor
  · rintro h before after rfl
    exact (protected_append.1 h).2.1 rfl
  · intro h
    induction t generalizing last with
    | nil => trivial
    | cons c cs ih =>
        refine ⟨fun hc => h [] cs (by rw [hc]; rfl), ih fun before after hcs => ?_⟩
        rw [← getLast?_cons_or c before last]
        exact h (c :: before) after (by rw [hcs]; rfl)

/-! ### Protected literals -/

/-- The literals among segments are protected, each behind the character that stands before it. -/
def Shielded (d : Delimiters) (o : Char) : Option Char → List Segment → Prop
  | _, [] => True
  | last, .literal t :: rest => Protected d o last t ∧ Shielded d o (t.getLast?.or last) rest
  | last, .reference r :: rest => Shielded d o (r.raw.getLast?.or last) rest

instance decidableShielded : ∀ (last : Option Char) (segments : List Segment),
    Decidable (Shielded d o last segments)
  | _, [] => inferInstanceAs (Decidable True)
  | last, .literal t :: rest =>
    have := decidableShielded (t.getLast?.or last) rest
    inferInstanceAs (Decidable (Protected d o last t ∧ Shielded d o (t.getLast?.or last) rest))
  | last, .reference r :: rest => decidableShielded (r.raw.getLast?.or last) rest

theorem shielded_pushChar {c : Char} :
    Shielded d o last (pushChar c segments) ↔
      (c = o → d.protectedBy last = true) ∧ Shielded d o (some c) segments := by
  cases segments with
  | nil => simp [pushChar, Shielded, Protected]
  | cons segment rest =>
      cases segment with
      | reference r => simp [pushChar, Shielded, Protected]
      | literal t => simp only [pushChar, Shielded, Protected, getLast?_cons_or, and_assoc]

theorem Shielded.mono : ∀ {segments : List Segment} {last last' : Option Char},
    Shielded d o last segments → (d.protectedBy last = true → d.protectedBy last' = true) →
    Shielded d o last' segments
  | [], _, _, _, _ => trivial
  | .literal t :: rest, last, last', h, hlast => by
      refine ⟨h.1.mono hlast, Shielded.mono h.2 ?_⟩
      cases t.getLast? with
      | none => exact hlast
      | some c => exact id
  | .reference r :: rest, last, last', h, hlast => by
      have hrest : Shielded d o (r.raw.getLast?.or last) rest := h
      refine hrest.mono ?_
      cases r.raw.getLast? with
      | none => exact hlast
      | some c => exact id

theorem protected_of_quiet : ∀ {last : Option Char} {segments : List Segment},
    Quiet segments → Shielded d o last segments → Protected d o last (segments.flatMap raw)
  | _, [], _, _ => trivial
  | _, .reference r :: rest, hquiet, _ => absurd hquiet not_quiet_reference
  | _, .literal t :: rest, hquiet, h => by
      rw [List.flatMap_cons]
      have hrest : Quiet rest := fun s hs => hquiet s (List.mem_cons_of_mem _ hs)
      exact protected_append.2 ⟨h.1, protected_of_quiet hrest h.2⟩

/-- Of the character before a text only matters whether it protects. -/
theorem scan_congr (hd : d.opening = [o]) (h : d.protectedBy last = d.protectedBy last') :
    scan d last t = scan d last' t := by
  cases t with
  | nil => rw [scan, scan]
  | cons c cs =>
      by_cases hc : c = o
      · subst hc
        cases hp : d.protectedBy last with
        | true => rw [scan_cons_of_dead hd (.inl hp), scan_cons_of_dead hd (.inl (h ▸ hp))]
        | false =>
            cases hr : read? d (c :: cs) with
            | none => rw [scan_cons_of_dead hd (.inr hr), scan_cons_of_dead hd (.inr hr)]
            | some p => rw [scan_cons_of_live hd hp hr, scan_cons_of_live hd (h ▸ hp) hr]
      · rw [scan_cons_of_ne hd hc, scan_cons_of_ne hd hc]

theorem reference_mem_pushChar {c : Char} {r : Reference} :
    .reference r ∈ pushChar c segments ↔ .reference r ∈ segments := by
  cases segments with
  | nil => simp [pushChar]
  | cons segment rest => cases segment <;> simp [pushChar]

theorem exists_raw_of_mem_scan (hd : d.opening = [o]) (hk : d.closing = [k]) {r : Reference} :
    ∀ {last : Option Char} {t : Text}, .reference r ∈ scan d last t →
      ∃ inner, r.raw = o :: inner ++ [k] ∧ ∀ c ∈ inner, isTokenChar c = true := by
  intro last t
  fun_induction scan d last t with
  | case1 => simp
  | case2 last c cs hopen q after h ih =>
      have hread : read? d (c :: cs) = some (q, after) := by
        split at h
        · cases h
        · exact h
      obtain rfl : o = c := by simpa [hd] using hopen
      obtain ⟨inner, parsed, -, -, hparsed, rfl⟩ := (read?_eq_some_iff hd hk).1 hread
      intro hr
      rcases List.mem_cons.1 hr with hr | hr
      · cases hr
        exact ⟨inner, rfl, isTokenChar_of_parse? hparsed⟩
      · exact ih hr
  | case3 last c cs hopen h width ih =>
      have hwidth : width = 0 := by simp [width, hd]
      rw [hwidth] at ih ⊢
      intro hr
      exact ih (reference_mem_pushChar.1 hr)
  | case4 last c cs hopen ih => rwa [reference_mem_pushChar]

/-- An opening delimiter behind the text `before` is protected, or one of the references begins there. -/
def Accounted (d : Delimiters) (last : Option Char) (segments : List Segment) (before : Text) : Prop :=
  d.protectedBy (before.getLast?.or last) = true ∨
    ∃ first r rest, segments = first ++ .reference r :: rest ∧ first.flatMap raw = before

theorem accounted_cons {segment : Segment} {others : List Segment} {before : Text}
    (hraw : ∀ r, segment = .reference r → r.raw ≠ []) :
    Accounted d last (segment :: others) (segment.raw ++ before) ↔
      Accounted d (segment.raw.getLast?.or last) others before := by
  unfold Accounted
  rw [List.getLast?_append, Option.or_assoc]
  refine or_congr_right ⟨?_, ?_⟩
  · rintro ⟨first, r, rest, hsegments, hbefore⟩
    cases first with
    | nil =>
        obtain ⟨rfl, -⟩ := List.cons.inj hsegments
        exact absurd (List.append_eq_nil_iff.1 hbefore.symm).1 (hraw r rfl)
    | cons head first =>
        obtain ⟨rfl, rfl⟩ := List.cons.inj hsegments
        exact ⟨first, r, rest, rfl, List.append_cancel_left hbefore⟩
  · rintro ⟨first, r, rest, rfl, rfl⟩
    exact ⟨segment :: first, r, rest, rfl, rfl⟩

/-- The literals are protected if and only if every opening delimiter in the text is protected or begins one
of the references. -/
theorem shielded_iff {segments : List Segment} {last : Option Char}
    (hraw : ∀ r, .reference r ∈ segments → ∃ tail, r.raw = o :: tail ∧ o ∉ tail) :
    Shielded d o last segments ↔ ∀ before after, segments.flatMap raw = before ++ o :: after →
      Accounted d last segments before := by
  induction segments generalizing last with
  | nil => simp [Shielded]
  | cons segment others ih =>
      have hne : ∀ r, segment = .reference r → r.raw ≠ [] := by
        rintro r rfl
        obtain ⟨tail, htail, -⟩ := hraw r List.mem_cons_self
        simp [htail]
      have ih := @ih (segment.raw.getLast?.or last) fun r hr => hraw r (List.mem_cons_of_mem _ hr)
      -- a delimiter of the text is one behind the first segment or one within it
      have hsplit : (∀ before after, (segment :: others).flatMap raw = before ++ o :: after →
            Accounted d last (segment :: others) before) ↔
          (∀ before after, segment.raw = before ++ o :: after →
            Accounted d last (segment :: others) before) ∧
          Shielded d o (segment.raw.getLast?.or last) others := by
        rw [ih]
        constructor
        · intro h
          refine ⟨fun before after htext => h before (after ++ others.flatMap raw) ?_,
            fun before after htext => (accounted_cons hne).1 (h _ after ?_)⟩
          · rw [List.flatMap_cons, htext, List.append_assoc, List.cons_append]
          · rw [List.flatMap_cons, htext, List.append_assoc]
        · rintro ⟨hwithin, hbehind⟩ before after htext
          rw [List.flatMap_cons] at htext
          rcases List.append_eq_append_iff.1 htext with ⟨x, rfl, hx⟩ | ⟨x, hx, hafter⟩
          · exact (accounted_cons hne).2 (hbehind x after hx)
          · cases x with
            | nil =>
                rw [List.append_nil] at hx
                rw [← hx, ← List.append_nil segment.raw]
                exact (accounted_cons hne).2 (hbehind [] after hafter.symm)
            | cons c x =>
                obtain ⟨rfl, -⟩ := List.cons.inj hafter
                exact hwithin before x hx
      rw [hsplit]
      cases segment with
      | reference r =>
          obtain ⟨tail, htail, hnot⟩ := hraw r List.mem_cons_self
          refine ⟨fun h => ⟨fun before after hbefore => ?_, h⟩, fun h => h.2⟩
          cases before with
          | nil => exact .inr ⟨[], r, others, rfl, rfl⟩
          | cons c before =>
              rw [raw, htail] at hbefore
              obtain ⟨-, rfl⟩ := List.cons.inj hbefore
              simp at hnot
      | literal t =>
          refine and_congr_left fun _ => ?_
          rw [protected_iff]
          refine forall₃_congr fun before after ht => ⟨.inl, fun h => h.resolve_right ?_⟩
          rintro ⟨first, r, rest, hsegments, hbefore⟩
          cases first with
          | nil => cases hsegments
          | cons head first =>
              obtain ⟨rfl, -⟩ := List.cons.inj hsegments
              have hlength := congrArg List.length hbefore
              have hlength' := congrArg List.length ht
              simp only [List.flatMap_cons, raw, List.length_append, List.length_cons] at hlength hlength'
              omega

end Segment

namespace Symbols

variable (s : Symbols)

theorem protectedBy_iff {last : Option Char} :
    s.delimiters.protectedBy last = true ↔ last = some s.escape := by
  cases last with
  | none => simp [Delimiters.protectedBy]
  | some c =>
      simp only [Delimiters.protectedBy, delimiters, beq_iff_eq, List.cons.injEq, and_true,
        Option.some.injEq]
      exact eq_comm

/-- One of the references of a line begins behind the text `before`. -/
def Begins (line before : Text) : Prop :=
  ∃ first r rest, Segment.tokenize s.delimiters line = first ++ .reference r :: rest ∧
    first.flatMap Segment.raw = before

/-- Every opening delimiter on the line is escaped or begins a reference. -/
def Settled (line : Text) : Prop :=
  ∀ before after, line = before ++ s.opening :: after →
    before.getLast? = some s.escape ∨ s.Begins line before

variable {s} {line t : Text}

theorem settled_iff_shielded (hopening : Reference.isTokenChar s.opening = false) :
    s.Settled line ↔
      Segment.Shielded s.delimiters s.opening none (Segment.tokenize s.delimiters line) := by
  have hraw : ∀ r, .reference r ∈ Segment.tokenize s.delimiters line →
      ∃ tail, r.raw = s.opening :: tail ∧ s.opening ∉ tail := by
    intro r hr
    obtain ⟨inner, hinner, hall⟩ := Segment.exists_raw_of_mem_scan rfl rfl hr
    refine ⟨inner ++ [s.closing], hinner, fun hmem => ?_⟩
    rcases List.mem_append.1 hmem with hmem | hmem
    · rw [hall _ hmem] at hopening
      cases hopening
    · exact s.opening_ne_closing (List.mem_singleton.1 hmem)
  have htext : (Segment.tokenize s.delimiters line).flatMap Segment.raw = line :=
    (Segment.flatMap_raw_scan _ _ _).1
  rw [Segment.shielded_iff hraw, htext]
  unfold Settled Begins Segment.Accounted
  simp only [Option.or_none, protectedBy_iff]

/-- The literals behind the indentation are protected too: nothing in an indentation protects them. -/
theorem shielded_dropWhile : ∀ {last : Option Char} {line : Text},
    s.delimiters.protectedBy last = false →
    Segment.Shielded s.delimiters s.opening last (Segment.scan s.delimiters last line) →
    Segment.Shielded s.delimiters s.opening none
      (Segment.scan s.delimiters none (line.dropWhile isIndent))
  | last, [], _, _ => by
      rw [List.dropWhile_nil, Segment.scan]
      trivial
  | last, c :: cs, hlast, h => by
      by_cases hc : isIndent c = true
      · have hopening : c ≠ s.opening := ne_of_isIndent s.opening_solid hc
        have hescape : s.delimiters.protectedBy (some c) = false := by
          rw [Bool.eq_false_iff, Ne, protectedBy_iff, Option.some.injEq]
          exact ne_of_isIndent s.escape_solid hc
        rw [Segment.scan_cons_of_ne rfl hopening, Segment.shielded_pushChar] at h
        rw [List.dropWhile_cons_of_pos hc]
        exact shielded_dropWhile hescape h.2
      · have hscan : Segment.scan s.delimiters last (c :: cs) = Segment.scan s.delimiters none (c :: cs) :=
          Segment.scan_congr rfl hlast
        rw [List.dropWhile_cons_of_neg hc, ← hscan]
        exact h.mono fun hp => by rw [hlast] at hp; cases hp

theorem escaped_of_protected (h : Segment.Protected s.delimiters s.opening none t) :
    ∀ before after, t = before ++ s.opening :: after → before.getLast? = some s.escape := by
  intro before after ht
  have hescape := Segment.protected_iff.1 h before after ht
  rwa [Option.or_none, protectedBy_iff] at hescape

end Symbols

namespace Expansion

open Segment

variable {d : Delimiters} {o : Char} {last last' : Option Char} {indent t : Text}
  {done : List Text × Text}

/-- What a line has become so far is protected, and it ends with the escape that the rest of the line relies
on, if it relies on one. -/
structure Sealed (d : Delimiters) (o : Char) (last : Option Char) (done : List Text × Text) : Prop where
  finished : ∀ t ∈ done.1, Protected d o none t
  current : Protected d o none done.2
  seam : d.protectedBy last = true → d.protectedBy done.2.getLast? = true

theorem Sealed.put_literal (h : Sealed d o last done) (ht : Protected d o last t) :
    Sealed d o (t.getLast?.or last) ((Piece.literal t).put indent done) where
  finished := h.finished
  current := by
    refine protected_append.2 ⟨h.current, ?_⟩
    rw [Option.or_none]
    exact ht.mono h.seam
  seam := by
    intro hlast
    show d.protectedBy (done.2 ++ t).getLast? = true
    rw [List.getLast?_append]
    cases hend : t.getLast? with
    | none =>
        rw [hend] at hlast
        exact h.seam hlast
    | some c =>
        rw [hend] at hlast
        exact hlast

theorem Sealed.put_lines (h : Sealed d o last done) (hindent : Protected d o none indent)
    {body : List Text} (hbody : ∀ t ∈ body, Protected d o none t)
    (hlast' : d.protectedBy last' = false) :
    Sealed d o last' ((Piece.lines body).put indent done) := by
  have hseam : ∀ t : Text, d.protectedBy last' = true → d.protectedBy t.getLast? = true := by
    intro t hlast
    rw [hlast'] at hlast
    cases hlast
  cases body with
  | nil => exact ⟨h.finished, h.current, hseam _⟩
  | cons first rest =>
      rw [List.forall_mem_cons] at hbody
      have hall : ∀ t ∈ (done.2 ++ first) :: rest.map (indent ++ ·), Protected d o none t := by
        refine List.forall_mem_cons.2 ⟨protected_append.2 ⟨h.current, hbody.1.of_none⟩, ?_⟩
        intro t ht
        obtain ⟨u, hu, rfl⟩ := List.mem_map.1 ht
        exact protected_append.2 ⟨hindent, (hbody.2 u hu).of_none⟩
      refine ⟨fun t ht => ?_, ?_, hseam _⟩
      · rcases List.mem_append.1 ht with ht | ht
        · exact h.finished t ht
        · exact hall t (List.mem_of_mem_dropLast ht)
      · refine hall _ ?_
        rw [Piece.put, List.getLastD_cons]
        exact List.getLastD_mem_cons

/-- A segment and what it has become, when blocks expand to protected lines. -/
inductive Yields (d : Delimiters) (o : Char) : Segment → Piece → Prop
  | literal (t : Text) : Yields d o (.literal t) (.literal t)
  | reference (r : Reference) {body : List Text} (h : ∀ t ∈ body, Protected d o none t) :
      Yields d o (.reference r) (.lines body)

theorem Sealed.foldl_put (hindent : Protected d o none indent) {segments : List Segment}
    {pieces : List Piece} (hyields : List.Forall₂ (Yields d o) segments pieces)
    (hraw : ∀ r, .reference r ∈ segments → ∀ last, d.protectedBy (r.raw.getLast?.or last) = false) :
    ∀ {last : Option Char} {done : List Text × Text}, Shielded d o last segments →
      Sealed d o last done → ∃ last', Sealed d o last' (pieces.foldl (Piece.put indent) done) := by
  induction hyields with
  | nil => exact fun _ h => ⟨_, h⟩
  | cons hpiece hrest ih =>
      intro last done hshielded h
      have hothers := fun r hr => hraw r (List.mem_cons_of_mem _ hr)
      cases hpiece with
      | literal t => exact ih hothers hshielded.2 (h.put_literal hshielded.1)
      | reference r hbody =>
          exact ih hothers hshielded (h.put_lines hindent hbody (hraw r List.mem_cons_self last))

theorem protected_splice (hindent : Protected d o none indent) {segments : List Segment}
    {pieces : List Piece} (hyields : List.Forall₂ (Yields d o) segments pieces)
    (hraw : ∀ r, .reference r ∈ segments → ∀ last, d.protectedBy (r.raw.getLast?.or last) = false)
    (hshielded : Shielded d o none segments) :
    ∀ t ∈ splice indent pieces, Protected d o none t := by
  have hstart : Sealed d o none ([], indent) := ⟨by simp, hindent, fun h => by cases h⟩
  obtain ⟨last', hdone⟩ := Sealed.foldl_put hindent hyields hraw hshielded hstart
  unfold splice
  dsimp only
  split
  · simp
  · intro t ht
    rcases List.mem_append.1 ht with ht | ht
    · exact hdone.finished t ht
    · rw [List.mem_singleton.1 ht]
      exact hdone.current

/-! ### Level by level -/

variable {σ : Type} {filters : Filters σ} {s : Symbols} {table : Table Text (List Text)}
  {lines : List Text} {line : Text}

/-- The lines are settled, and so are those of all blocks that references lead to from them; the references
have no filters. -/
structure SettledFrom (s : Symbols) (table : Table Text (List Text)) (lines : List Text) : Prop where
  own : ∀ line ∈ lines, s.Settled line
  blocks : ∀ r, Reaches s.delimiters table lines r → ∀ line ∈ target table r, s.Settled line
  unfiltered : ∀ r, Reaches s.delimiters table lines r → r.filters = []

theorem SettledFrom.target {r : Reference} (h : SettledFrom s table lines)
    (hr : Refers s.delimiters lines r) : SettledFrom s table (target table r) where
  own := h.blocks r hr.reaches
  blocks q := fun ⟨first, hq⟩ => h.blocks q ⟨r :: first, hr, hq⟩
  unfiltered q := fun ⟨first, hq⟩ => h.unfiltered q ⟨r :: first, hr, hq⟩

theorem SettledFrom.of_table (hlines : (∀ line ∈ lines, s.Settled line) ∧ Unfiltered s.delimiters lines)
    (htable : ∀ entry ∈ table, (∀ line ∈ entry.2, s.Settled line) ∧ Unfiltered s.delimiters entry.2) :
    SettledFrom s table lines where
  own := hlines.1
  blocks r _ line hline := by
    unfold Expansion.target at hline
    cases hbody : table.get? r.name with
    | none =>
        rw [hbody] at hline
        cases hline
    | some body =>
        rw [hbody] at hline
        obtain ⟨entry, hentry, rfl⟩ := Table.exists_mem_of_get? hbody
        exact (htable entry hentry).1 line hline
  unfiltered := fun _ ⟨_, hchain⟩ =>
    Reaches.of_refers (fun entry hentry => (htable entry hentry).2) hlines.2 hchain

theorem yields_of_ends {inner : Body σ Text → Run σ (List Text)} {segment : Segment} {piece : Piece}
    {c c' : σ}
    (hinner : ∀ r body expanded u u', segment = .reference r → table.get? r.name = some body →
      (inner (.fixed body)).Ends u (.ok expanded) u' → ∀ t ∈ expanded, Protected d o none t)
    (hfilters : ∀ r, segment = .reference r → r.filters = [])
    (h : (expandSegment (Scope.ofTable table filters) inner line segment).Ends c (.ok piece) c') :
    Yields d o segment piece := by
  cases segment with
  | literal t =>
      cases (Run.ends_pure_iff.1 h).1
      exact .literal t
  | reference r =>
      obtain ⟨body?, u, hbody, h⟩ := Run.ends_bind_ok.1 h
      cases hbody.1
      cases hbody : table.get? r.name with
      | none =>
          simp only [hbody, Option.map_none] at h
          cases h.1
      | some body =>
          simp only [hbody, Option.map_some] at h
          obtain ⟨expanded, u', hexpanded, h⟩ := Run.ends_bind_ok.1 h
          obtain ⟨filtered, u'', hfiltered, hpiece⟩ := Run.ends_bind_ok.1 h
          cases (Run.ends_pure_iff.1 hpiece).1
          rw [hfilters r rfl] at hfiltered
          rw [eq_of_ends_apply_nil hfiltered]
          exact .reference r (hinner r body expanded u u' rfl hbody hexpanded)

theorem protected_of_ends_expandLine {inner : Body σ Text → Run σ (List Text)} {out : List Text}
    {c c' : σ} (hopening : Reference.isTokenChar s.opening = false) (hline : s.Settled line)
    (hinner : ∀ r body expanded u u', .reference r ∈ segmentsOf s.delimiters line →
      table.get? r.name = some body → (inner (.fixed body)).Ends u (.ok expanded) u' →
      ∀ t ∈ expanded, Protected s.delimiters s.opening none t)
    (hfilters : ∀ r, .reference r ∈ segmentsOf s.delimiters line → r.filters = [])
    (h : (expandLine s.delimiters (Scope.ofTable table filters) inner line).Ends c (.ok out) c') :
    ∀ t ∈ out, Protected s.delimiters s.opening none t := by
  have hwhole := (Symbols.settled_iff_shielded hopening).1 hline
  have hshielded : Shielded s.delimiters s.opening none (segmentsOf s.delimiters line) :=
    Symbols.shielded_dropWhile rfl hwhole
  have hindent : Protected s.delimiters s.opening none (line.takeWhile isIndent) := by
    refine protected_of_not_mem fun hmem => ?_
    exact ne_of_isIndent s.opening_solid (List.mem_takeWhile_imp hmem) rfl
  unfold expandLine at h
  dsimp only at h
  split at h
  · next href =>
      obtain ⟨pieces, u, hpieces, hsplice⟩ := Run.ends_bind_ok.1 h
      cases (Run.ends_pure_iff.1 hsplice).1
      refine protected_splice hindent ?_ (fun r hr last => ?_) hshielded
      · refine ((List.forall₂_and_left _ _).2 ⟨fun segment
          (hs : segment ∈ segmentsOf s.delimiters line) => hs, Run.of_ends_mapM_ok hpieces⟩).imp ?_
        rintro segment piece ⟨hs, u, u', hpiece⟩
        exact yields_of_ends (fun r body expanded x x' hr => hinner r body expanded x x' (hr ▸ hs))
          (fun r hr => hfilters r (hr ▸ hs)) hpiece
      · obtain ⟨inner, hraw, -⟩ := exists_raw_of_mem_scan rfl rfl hr
        rw [hraw, List.getLast?_concat, Option.some_or, Bool.eq_false_iff, Ne, s.protectedBy_iff,
          Option.some.injEq]
        exact s.closing_ne_escape
  · next href =>
      cases (Run.ends_pure_iff.1 h).1
      intro t ht
      rw [List.mem_singleton.1 ht, ← takeWhile_append_segments s.delimiters line]
      have hquiet : Quiet (segmentsOf s.delimiters line) := quiet_iff.2 (Bool.eq_false_iff.2 href)
      exact protected_append.2 ⟨hindent, (protected_of_quiet hquiet hshielded).of_none⟩

theorem protected_of_ends_expandBody (hopening : Reference.isTokenChar s.opening = false) :
    ∀ {budget : Nat} {depth : Int} {lines out : List Text} {c c' : σ}, SettledFrom s table lines →
    (expandBody s.delimiters (Scope.ofTable table filters) budget depth (.fixed lines)).Ends c
      (.ok out) c' →
    ∀ t ∈ out, Protected s.delimiters s.opening none t
  | 0, _, _, _, _, _, _, h => by cases h.1
  | budget + 1, depth, lines, out, c, c', hsettled, h => by
      rw [expandBody_fixed, Run.ends_progress_bind] at h
      obtain ⟨parts, hparts, rfl⟩ := Run.of_ends_collect_ok h
      refine List.forall_mem_flatten.2 (forall_mem_of_forall₂ hparts ?_)
      rintro line hline part ⟨v, v', hpart⟩
      obtain ⟨r, hpart, hr⟩ := Run.ends_mapFault.1 hpart
      rw [Result.mapError_eq_ok.1 hr] at hpart
      refine protected_of_ends_expandLine hopening (hsettled.own line hline)
        (fun r body expanded x x' hr hbody hexpanded => ?_)
        (fun r hr => hsettled.unfiltered r (Refers.reaches ⟨line, hline, hr⟩)) hpart
      have htarget := hsettled.target ⟨line, hline, hr⟩
      unfold Expansion.target at htarget
      rw [hbody] at htarget
      exact protected_of_ends_expandBody hopening htarget hexpanded

/-! ### A second time -/

/-- There is no reference on a protected line, nor behind its indentation. -/
theorem quiet_segmentsOf (h : Protected s.delimiters s.opening none line) :
    Quiet (segmentsOf s.delimiters line) := by
  rw [← List.takeWhile_append_dropWhile (p := isIndent) (l := line), protected_append] at h
  refine quiet_of_protected rfl (h.2.mono fun hprotects => ?_)
  rw [Option.or_none, s.protectedBy_iff] at hprotects
  have hescape := List.mem_takeWhile_imp (List.mem_of_getLast? hprotects)
  exact absurd rfl (ne_of_isIndent s.escape_solid hescape)

theorem ends_expandLine_of_quiet {scope : Scope σ Text} {inner : Body σ Text → Run σ (List Text)}
    (h : Quiet (segmentsOf d line)) (c : σ) : (expandLine d scope inner line).Ends c (.ok [line]) c := by
  unfold segmentsOf at h
  unfold expandLine
  dsimp only
  rw [quiet_iff.1 h]
  exact Run.ends_pure _ c

theorem ends_bodyAt_of_protected {maxDepth : Int} (hdepth : 0 ≤ maxDepth)
    (h : ∀ line ∈ lines, Protected s.delimiters s.opening none line) (c : σ) :
    (bodyAt s.delimiters (Scope.ofTable table filters) maxDepth 0 (.fixed lines)).Ends c (.ok lines)
      c := by
  obtain ⟨n, hbudget⟩ : ∃ n, budget maxDepth 0 = n + 1 :=
    ⟨maxDepth.toNat, by unfold budget; omega⟩
  unfold bodyAt
  rw [hbudget, expandBody_fixed, Run.ends_progress_bind]
  refine Run.ends_collect_self fun line hline => ?_
  exact (ends_expandLine_of_quiet (quiet_segmentsOf (h line hline)) c).mapFault

/-- **The output is fully expanded.** Let every opening delimiter on the lines, and on the lines of the
blocks they lead to, begin a reference or be escaped, and let no reference have filters. If the lines expand,
every opening delimiter in the output is escaped. So there is no reference in it, and to expand it again,
over any table, gives it back. -/
theorem expand_settled (hopening : Reference.isTokenChar s.opening = false)
    (hsettled : SettledFrom s table lines) {settings : Settings}
    (hsymbols : settings.delimiters = s.delimiters) {stack : Nat} {out : List Text} {c : σ}
    (hok : ((expand settings stack (Scope.ofTable table filters) (.fixed lines)).run c).result =
      .ok out) :
    (∀ t ∈ out, ∀ before after, t = before ++ s.opening :: after →
      before.getLast? = some s.escape) ∧
    (∀ t ∈ out, Quiet (tokenize s.delimiters t)) ∧
    ∀ (table' : Table Text (List Text)) (filters' : Filters σ) (c' : σ),
      (expand settings stack (Scope.ofTable table' filters') (.fixed out)).Ends c' (.ok out) c' := by
  obtain ⟨hfits, hends⟩ := Run.ends_withRoom_ok.1 ⟨hok, rfl⟩
  rw [hsymbols] at hends
  have hprotected : ∀ t ∈ out, Protected s.delimiters s.opening none t :=
    protected_of_ends_expandBody hopening hsettled hends
  have hdepth : 0 ≤ settings.maxMacroDepth := by
    by_contra hneg
    have hbudget : budget settings.maxMacroDepth 0 = 0 := by unfold budget; omega
    unfold bodyAt at hends
    rw [hbudget] at hends
    cases hends.1
  refine ⟨fun t ht => Symbols.escaped_of_protected (hprotected t ht),
    fun t ht => quiet_of_protected rfl (hprotected t ht), fun table' filters' c' => ?_⟩
  have hagain : (bodyAt s.delimiters (Scope.ofTable table' filters') settings.maxMacroDepth 0
      (.fixed out)).Ends c' (.ok out) c' := ends_bodyAt_of_protected hdepth hprotected c'
  rw [← hsymbols] at hagain
  exact hagain.withRoom hfits

/-- A block that ends with an escape, before one that begins with an escaped delimiter; escaped delimiters
directly before and behind references, and references directly behind each other. -/
theorem expand_settled_seams :
    let s : Symbols := ⟨'⦅', '⦆', '\\', by decide, by decide, by decide, by decide, by decide, by decide⟩
    let table : Table Text (List Text) := [
      (['a'], ["x \\⦅y".toList, "⦅b⦆⦅b⦆\\⦅z".toList]),
      (['b'], ["w\\".toList, "\\⦅⦆".toList])]
    let lines := ["  ⦅a⦆\\⦅a⦆⦅b⦆".toList, "\\⦅a⦆".toList]
    let out := ["  x \\⦅y".toList, "  w\\".toList, "  \\⦅⦆w\\".toList,
      "  \\⦅⦆\\⦅z\\⦅a⦆w\\".toList, "  \\⦅⦆".toList, "\\⦅a⦆".toList]
    SettledFrom s table lines ∧
    ((expand {} 9 (Scope.ofTable table Script.filters) (.fixed lines)).run
      (Script.Context.fresh [])).result = .ok out ∧
    (∀ t ∈ out, Quiet (tokenize s.delimiters t)) ∧
    ∀ table' c, (expand {} 9 (Scope.ofTable table' Script.filters) (.fixed out)).Ends c (.ok out)
      c := by
  intro s table lines out
  have hopening : Reference.isTokenChar s.opening = false := by decide +kernel
  have hbodies : ∀ body ∈ lines :: table.map Prod.snd,
      (∀ line ∈ body, s.Settled line) ∧ Unfiltered s.delimiters body := by
    simp only [Symbols.settled_iff_shielded hopening]
    intro body hbody
    refine ⟨?_, unfiltered_of_all ?_⟩
    · revert body
      decide +kernel
    · revert body
      decide +kernel
  rw [List.forall_mem_cons, List.forall_mem_map] at hbodies
  have hsettled : SettledFrom s table lines := .of_table hbodies.1 hbodies.2
  have hok : ((expand {} 9 (Scope.ofTable table Script.filters) (.fixed lines)).run
      (Script.Context.fresh [])).result = .ok out := by
    decide +kernel
  obtain ⟨-, hquiet, hagain⟩ := expand_settled hopening hsettled rfl hok
  exact ⟨hsettled, hok, hquiet, fun table' c => hagain table' Script.filters c⟩

end Expansion
end Literate
