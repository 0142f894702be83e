import Literate.Fence
import Literate.Highlight.Pattern
import Literate.Text.Lines

/-! # Highlighting

A document is cut into tokens for display. The reader stands at a point of the document in a mode, and has
rules for each mode, which it tries in order. A rule is a pattern in parts, what is shown of a piece that
matches it, and what becomes of the mode. In the plain mode directives, fences and headings are recognised
at the start of a line, elsewhere escaped delimiters, references and runs of plain text. Inside a reference
names, filters and spaces are told apart, and anything else means that it was no reference after all.

Where no rule applies the reader passes over one character: a line end takes it back to the plain mode, and
anything else is shown as an error. -/

namespace Literate.Highlight

open Text

/-- What a token is shown as. -/
inductive TokenKind where
  | text
  | operator
  | keyword
  | punctuation
  | string
  | otherString
  | stringEscape
  | comment
  | directive
  | language
  | tag
  | variable
  | function
  | heading
  /-- A line end that no rule takes. -/
  | whitespace
  /-- Any other character that no rule takes. -/
  | error
deriving DecidableEq, Repr

/-- A token: a kind and a piece of the document. -/
structure Token where
  kind : TokenKind
  text : Text
deriving DecidableEq

def textOf (found : List Token) : Text := found.flatMap Token.text

/-! ### Preparation -/

/-- The document as it is highlighted: without a byte order mark, with normal line ends, without empty
lines at either end, and with one final line end. -/
def prepare (t : Text) : Text :=
  let unmarked := if t.head? = some '\uFEFF' then t.tail else t
  let isLineFeed := fun c => c == '\n'
  trimEnd isLineFeed (trimStart isLineFeed (normalizeNewlines unmarked)) ++ ['\n']

/-! ### Rules -/

/-- What the reader stands in. -/
inductive Mode where
  | plain
  | insideReference
deriving DecidableEq

/-- A part of a rule: a group is shown by a token of its own. -/
structure Part where
  pattern : Pattern
  isGroup : Bool

/-- What is shown of a piece that matches a rule. -/
inductive Display where
  | nothing
  /-- The whole piece. -/
  | whole (kind : TokenKind)
  /-- The groups in order. -/
  | groups (kinds : List TokenKind)

/-- What a rule does to the modes that the reader has entered. -/
inductive Move where
  | stay
  | enter (mode : Mode)
  | leave
deriving DecidableEq

/-- The modes after a move, the innermost first. -/
def Move.apply : Move → List Mode → List Mode
  | stay, entered => entered
  | enter mode, entered => mode :: entered
  | leave, entered => entered.tail

/-- A rule for a piece of a document. -/
structure Rule where
  parts : List Part
  display : Display
  move : Move := .stay

def groupTexts : List Part → List Text → List Text
  | part :: parts, t :: texts =>
    if part.isGroup then t :: groupTexts parts texts else groupTexts parts texts
  | _, _ => []

namespace Rule

/-- The texts of the parts of a rule that matches at a point. -/
def match? (rule : Rule) (here : Point) : Option (List Text) :=
  Pattern.readAll (rule.parts.map Part.pattern) here

/-- The tokens for the texts of the parts. Groups without text are not shown. -/
def tokens (rule : Rule) (texts : List Text) : List Token :=
  match rule.display with
  | .nothing => []
  | .whole kind => [⟨kind, texts.flatten⟩]
  | .groups kinds =>
    ((kinds.zip (groupTexts rule.parts texts)).filter fun part => !part.2.isEmpty).map
      fun part => ⟨part.1, part.2⟩

/-- Whether a rule takes at least one character. -/
def takes (rule : Rule) : Bool := (rule.parts.map Part.pattern).any fun p => 0 < p.shortest

/-- A rule for pieces that are shown whole. -/
def plain (pattern : Pattern) (kind : TokenKind) (move : Move := .stay) : Rule :=
  ⟨[⟨pattern, false⟩], .whole kind, move⟩

/-- A rule for pieces that are shown in groups. -/
def grouped (patterns : List Pattern) (kinds : List TokenKind) : Rule :=
  ⟨patterns.map (⟨·, true⟩), .groups kinds, .stay⟩

/-- A rule for the start of a line, shown in groups. -/
def ofLine (patterns : List Pattern) (kinds : List TokenKind) : Rule :=
  ⟨⟨.lineStart, false⟩ :: patterns.map (⟨·, true⟩), .groups kinds, .stay⟩

end Rule

open Pattern

def isInLine (c : Char) : Bool := c != '\n'

def lineEnd : Pattern := optional (char '\n')

def restOfLine : Pattern := both (many isInLine) lineEnd

/-- The characters of a run of plain text. -/
def isPlain (c : Char) : Bool := c != '\\' && c != '⦅' && c != '\n'

def spaces : Pattern := many (· == ' ')

/-- The rule for a fence of extension code, in whatever language. -/
def extensionFence : Rule :=
  .ofLine [many isIndent, word "```", spaces, oneOrMore isWordChar, spaces, char '!', restOfLine]
    [.text, .punctuation, .text, .language, .text, .operator, .comment]

/-- The rule for all other fences. -/
def blockFence : Rule :=
  .ofLine [many isIndent, word "```", spaces, many isWordChar, spaces, optional (char '='),
      many isNameChar, restOfLine]
    [.text, .punctuation, .text, .language, .text, .operator, .tag, .text]

/-- The rules of a mode, in order. -/
def rules : Mode → List Rule
  | .plain => [
    .ofLine [char '!', oneOrMore isIndent, word "include", oneOrMore isIndent, char '[',
        many isInLine, word "](", many isInLine, char ')', both (many isIndent) lineEnd]
      [.operator, .text, .keyword, .text, .punctuation, .string, .punctuation, .otherString,
        .punctuation, .text],
    .ofLine [char '!', oneOrMore isIndent, word "include-path", oneOrMore isIndent, restOfLine]
      [.operator, .text, .keyword, .text, .otherString],
    .ofLine [char '!', oneOrMore isIndent, either (word "if") (word "elsif"), oneOrMore isIndent,
        restOfLine]
      [.operator, .text, .keyword, .text, .directive],
    .ofLine [char '!', oneOrMore isIndent, either (word "else") (word "end"),
        both (many isIndent) lineEnd]
      [.operator, .text, .keyword, .text],
    extensionFence,
    blockFence,
    .plain (both lineStart (both (both (char '#') (upTo (· == '#') 5)) restOfLine)) .heading,
    .plain (both (char '\\') (one fun c => c == '⦅' || c == '⦆')) .stringEscape,
    .plain (char '⦅') .punctuation (.enter .insideReference),
    .plain (oneOrMore isPlain) .text,
    .plain (char '\n') .text,
    .plain (one isInLine) .text]
  | .insideReference => [
    .plain (char '⦆') .punctuation .leave,
    .grouped [char '|', spaces, oneOrMore isNameChar] [.operator, .text, .function],
    .plain (oneOrMore isNameChar) .variable,
    .plain (oneOrMore (· == ' ')) .text,
    ⟨[], .nothing, .leave⟩]

/-! ### Reading -/

/-- Where the reader stands: the modes it has entered, the innermost first, and the point it has reached. -/
structure Reader where
  entered : List Mode := []
  here : Point

namespace Reader

def mode (r : Reader) : Mode := r.entered.headD .plain

/-- The tokens that a rule finds, and where the reader stands behind them. -/
def follow? (r : Reader) (rule : Rule) : Option (List Token × Reader) :=
  (rule.match? r.here).map fun texts =>
    (rule.tokens texts, ⟨rule.move.apply r.entered, r.here.after texts.flatten⟩)

/-- Go on by the first rule that applies, or else by one character. -/
def step (r : Reader) : Option (List Token × Reader) :=
  match (rules r.mode).findSome? r.follow? with
  | some found => some found
  | none =>
    match r.here.rest with
    | [] => none
    | c :: _ =>
      if c = '\n' then some ([⟨.whitespace, [c]⟩], ⟨[], r.here.after [c]⟩)
      else some ([⟨.error, [c]⟩], { r with here := r.here.after [c] })

/-- A rule takes at least one character, or it takes the reader out of a mode. -/
theorem takes_or_leaves (mode : Mode) :
    ∀ rule ∈ rules mode, rule.takes = true ∨ mode ≠ .plain ∧ rule.move = .leave := by
  cases mode <;> decide

/-- What a step does: it follows a rule, or passes over one character. -/
theorem step_cases {r next : Reader} {found : List Token} (h : r.step = some (found, next)) :
    (∃ rule ∈ rules r.mode, ∃ texts, rule.match? r.here = some texts ∧ found = rule.tokens texts ∧
      next = ⟨rule.move.apply r.entered, r.here.after texts.flatten⟩) ∨
    (rules r.mode).findSome? r.follow? = none ∧ ∃ c cs kind entered, r.here.rest = c :: cs ∧
      found = [⟨kind, [c]⟩] ∧ next = ⟨entered, r.here.after [c]⟩ := by
  unfold step at h
  split at h
  · next hrule =>
    obtain ⟨rule, hmem, hfollow⟩ := List.exists_of_findSome?_eq_some hrule
    obtain ⟨texts, htexts, hfound⟩ := Option.map_eq_some_iff.1 hfollow
    cases h
    obtain ⟨rfl, rfl⟩ := Prod.mk.inj hfound
    exact .inl ⟨rule, hmem, texts, htexts, rfl, rfl⟩
  · next hnone =>
    split at h
    · cases h
    · next c cs hrest =>
      refine .inr ⟨hnone, c, cs, ?_⟩
      split at h
      · cases h
        exact ⟨_, _, hrest, rfl, rfl⟩
      · cases h
        exact ⟨_, _, hrest, rfl, rfl⟩

/-- A step goes on in the document, or leaves a mode at the same point. -/
theorem step_decreases {r next : Reader} {found : List Token} (h : r.step = some (found, next)) :
    Prod.Lex (· < ·) (· < ·) (next.here.rest.length, next.entered.length)
      (r.here.rest.length, r.entered.length) := by
  rw [Prod.lex_def]
  rcases step_cases h with ⟨rule, hrule, texts, htexts, -, rfl⟩ | ⟨-, c, cs, _, _, hrest, -, rfl⟩
  · obtain ⟨hbegins, hne⟩ := of_readAll_eq_some htexts
    have hle := hbegins.length_le
    have hdrop : (r.here.after texts.flatten).rest.length =
        r.here.rest.length - texts.flatten.length := List.length_drop
    rcases takes_or_leaves r.mode rule hrule with htakes | ⟨hmode, hmove⟩
    · have hpos := List.length_pos_iff.2 (hne htakes)
      left
      show (r.here.after texts.flatten).rest.length < r.here.rest.length
      omega
    · have hentered : 0 < r.entered.length := by
        refine List.length_pos_iff.2 fun hempty => hmode ?_
        rw [mode, hempty]
        rfl
      have htail : (rule.move.apply r.entered).length = r.entered.length - 1 := by
        rw [hmove]
        exact List.length_tail
      show (r.here.after texts.flatten).rest.length < r.here.rest.length ∨
        (r.here.after texts.flatten).rest.length = r.here.rest.length ∧
          (rule.move.apply r.entered).length < r.entered.length
      omega
  · left
    simp [hrest]

/-- The tokens from where the reader stands. -/
def run (r : Reader) : List Token :=
  match _ : r.step with
  | none => []
  | some (found, next) => found ++ next.run
termination_by (r.here.rest.length, r.entered.length)
decreasing_by exact step_decreases ‹_›

end Reader

/-- The tokens of a document. -/
def highlight (t : Text) : List Token := Reader.run { here := { rest := prepare t } }

end Literate.Highlight
