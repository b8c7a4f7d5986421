/-! # Syntax of patterns

The abstract syntax of regular expressions as patterns write them: literals, the dot, assertions,
Perl classes (`\d`, `\s`, `\w`), Unicode classes (`\pL`, `\p{Greek}`), bracketed classes with
ranges, nested classes and set operations, repetitions, groups, alternations and concatenations,
and flag settings (`(?i)`).

Positions count characters from the start of the pattern, with lines and columns from one, so
that errors can point at the text they are about. A span runs from its start up to, and not
including, its stop.
-/

namespace ManifestLint.Pattern

/-- A place in a pattern: characters before it, and its line and column, from one. -/
structure Position where
  index : Nat
  line : Nat
  column : Nat
deriving DecidableEq, Repr, Inhabited

/-- The stretch of a pattern from `start` up to `stop`. -/
structure Span where
  start : Position
  stop : Position
deriving DecidableEq, Repr, Inhabited

/-- Whether a span lies on one line. -/
def Span.isOneLine (s : Span) : Bool :=
  s.start.line == s.stop.line

/-- A flag of a pattern. -/
inductive Flag
  | caseInsensitive
  | multiLine
  | dotMatchesNewLine
  | swapGreed
  | unicode
  | crlf
  | ignoreWhitespace
deriving DecidableEq, Repr

/-- An item of a flag setting: a flag, or the `-` that turns the flags after it off. -/
inductive FlagItem
  | negation
  | flag (f : Flag)
deriving DecidableEq, Repr

/-- The state a flag setting gives a flag: on, off, or unchanged. -/
def flagState (items : List FlagItem) (f : Flag) : Option Bool :=
  go items true
where
  go : List FlagItem → Bool → Option Bool
    | [], _ => none
    | .negation :: rest, _ => go rest false
    | .flag g :: rest, on => if g == f then some on else go rest on

/-- An assertion about the place between two characters. -/
inductive Assertion
  | startLine
  | endLine
  | startText
  | endText
  | wordBoundary
  | notWordBoundary
  | wordStartAngle
  | wordEndAngle
  | wordStart
  | wordEnd
  | wordStartHalf
  | wordEndHalf
deriving DecidableEq, Repr

/-- The Perl classes: digits, blanks and word characters. -/
inductive PerlKind
  | digit
  | space
  | word
deriving DecidableEq, Repr

/-- The named ASCII classes of bracket expressions (`[[:alpha:]]`). -/
inductive AsciiKind
  | alnum | alpha | ascii | blank | cntrl | digit | graph | lower | print | punct | space | upper
  | word | xdigit
deriving DecidableEq, Repr

/-- The ASCII class of a name. -/
def AsciiKind.ofName? : String → Option AsciiKind
  | "alnum" => some .alnum
  | "alpha" => some .alpha
  | "ascii" => some .ascii
  | "blank" => some .blank
  | "cntrl" => some .cntrl
  | "digit" => some .digit
  | "graph" => some .graph
  | "lower" => some .lower
  | "print" => some .print
  | "punct" => some .punct
  | "space" => some .space
  | "upper" => some .upper
  | "word" => some .word
  | "xdigit" => some .xdigit
  | _ => none

/-- How a Unicode class names its characters: by one letter, by a name, or by a property and a
value (`\p{sc=Greek}`, `\p{sc!=Greek}`). -/
inductive UnicodeQuery
  | oneLetter (c : Char)
  | named (name : String)
  | namedValue (notEqual : Bool) (name value : String)
deriving DecidableEq, Repr

/-- A literal character; `hexByte` marks one written as two hexadecimal digits after `\x`. -/
structure Literal where
  span : Span
  c : Char
  hexByte : Bool := false
deriving DecidableEq, Repr

/-- The set operations of bracketed classes. -/
inductive SetOp
  | intersection
  | difference
  | symmetricDifference
deriving DecidableEq, Repr

mutual

/-- An item of a bracketed class. -/
inductive ClassItem
  | literal (l : Literal)
  | range (span : Span) (lo hi : Literal)
  | ascii (span : Span) (kind : AsciiKind) (negated : Bool)
  | unicode (span : Span) (query : UnicodeQuery) (negated : Bool)
  | perl (span : Span) (kind : PerlKind) (negated : Bool)
  | bracketed (b : Bracketed)
  /-- No item at all, where a class or a side of a set operation is empty. -/
  | empty (span : Span)
  /-- Two items or more, side by side. -/
  | union (span : Span) (items : List ClassItem)

/-- The contents of a bracketed class: an item, or a set operation on two contents. -/
inductive ClassSet
  | item (i : ClassItem)
  | op (span : Span) (kind : SetOp) (lhs rhs : ClassSet)

/-- A bracketed class. -/
inductive Bracketed
  | mk (span : Span) (negated : Bool) (set : ClassSet)

end

/-- The span of a bracketed class, from its opening bracket to its closing one. -/
def Bracketed.span : Bracketed → Span
  | .mk s _ _ => s

/-- The span of an item of a class. -/
def ClassItem.span : ClassItem → Span
  | .literal l => l.span
  | .range s _ _ | .ascii s _ _ | .unicode s _ _ | .perl s _ _ | .empty s | .union s _ => s
  | .bracketed b => b.span

/-- The span of the contents of a class. -/
def ClassSet.span : ClassSet → Span
  | .item i => i.span
  | .op s _ _ _ => s

/-- How often a repetition may repeat: at least `min` times, and at most `max` if given. -/
structure Bounds where
  min : Nat
  max : Option Nat
deriving DecidableEq, Repr

/-- A pattern. -/
inductive Ast
  | empty
  | setFlags (items : List FlagItem)
  | literal (l : Literal)
  | dot (span : Span)
  | assertion (span : Span) (kind : Assertion)
  | unicode (span : Span) (query : UnicodeQuery) (negated : Bool)
  | perl (span : Span) (kind : PerlKind) (negated : Bool)
  | bracketed (b : Bracketed)
  | repetition (span : Span) (a : Ast) (bounds : Bounds) (greedy : Bool)
  /-- A group; `flags` holds the flags of a group that does not capture, none for one that
  does. -/
  | group (span : Span) (flags : Option (List FlagItem)) (a : Ast)
  | alternation (span : Span) (branches : List Ast)
  | concat (span : Span) (items : List Ast)

/-- The span of a pattern. The empty pattern and flag settings are never repeated, and only a
repeated pattern's span is asked for, so they are given the empty span at the start. -/
def Ast.span : Ast → Span
  | .empty | .setFlags _ => default
  | .literal l => l.span
  | .dot s | .assertion s _ | .unicode s _ _ | .perl s _ _ | .repetition s _ _ _ | .group s _ _
  | .alternation s _ | .concat s _ => s
  | .bracketed b => b.span

end ManifestLint.Pattern
