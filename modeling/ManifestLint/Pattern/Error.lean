import ManifestLint.Pattern.Syntax

/-! # Pattern errors

An error names what is wrong and the span of the pattern it is about, and for a duplicate a second
span pointing at the first occurrence. Its text repeats the pattern and marks the spans with carets
under it: a line of four spaces and the pattern, then a line with carets under each span (one at
least). A pattern of several lines is framed by lines of tildes, its lines are numbered, and a span
that crosses lines is described in words below the frame.
-/

namespace ManifestLint.Pattern

/-- What is wrong with a pattern. -/
inductive ErrorKind
  | classEscapeInvalid
  | classRangeInvalid
  | classRangeLiteral
  | classUnclosed
  | decimalEmpty
  | decimalInvalid
  | escapeHexEmpty
  | escapeHexInvalid
  | escapeHexInvalidDigit
  | escapeUnexpectedEof
  | escapeUnrecognized
  | flagDanglingNegation
  | flagDuplicate
  | flagRepeatedNegation
  | flagUnexpectedEof
  | flagUnrecognized
  | groupNameDuplicate
  | groupNameEmpty
  | groupNameInvalid
  | groupNameUnexpectedEof
  | groupUnclosed
  | groupUnopened
  | repetitionCountInvalid
  | repetitionCountDecimalEmpty
  | repetitionCountUnclosed
  | repetitionMissing
  | specialWordBoundaryUnclosed
  | specialWordBoundaryUnrecognized
  | specialWordOrRepetitionUnexpectedEof
  | unicodeClassInvalid
  | unsupportedBackreference
  | unsupportedLookAround
  | unicodeNotAllowed
  | invalidUtf8
  | unicodePropertyNotFound
  | unicodePropertyValueNotFound
  | nestLimitExceeded (limit : Nat)
deriving DecidableEq, Repr

def ErrorKind.message : ErrorKind → String
  | .classEscapeInvalid => "invalid escape sequence found in character class"
  | .classRangeInvalid => "invalid character class range, the start must be <= the end"
  | .classRangeLiteral => "invalid range boundary, must be a literal"
  | .classUnclosed => "unclosed character class"
  | .decimalEmpty => "decimal literal empty"
  | .decimalInvalid => "decimal literal invalid"
  | .escapeHexEmpty => "hexadecimal literal empty"
  | .escapeHexInvalid => "hexadecimal literal is not a Unicode scalar value"
  | .escapeHexInvalidDigit => "invalid hexadecimal digit"
  | .escapeUnexpectedEof => "incomplete escape sequence, reached end of pattern prematurely"
  | .escapeUnrecognized => "unrecognized escape sequence"
  | .flagDanglingNegation => "dangling flag negation operator"
  | .flagDuplicate => "duplicate flag"
  | .flagRepeatedNegation => "flag negation operator repeated"
  | .flagUnexpectedEof => "expected flag but got end of regex"
  | .flagUnrecognized => "unrecognized flag"
  | .groupNameDuplicate => "duplicate capture group name"
  | .groupNameEmpty => "empty capture group name"
  | .groupNameInvalid => "invalid capture group character"
  | .groupNameUnexpectedEof => "unclosed capture group name"
  | .groupUnclosed => "unclosed group"
  | .groupUnopened => "unopened group"
  | .repetitionCountInvalid => "invalid repetition count range, the start must be <= the end"
  | .repetitionCountDecimalEmpty => "repetition quantifier expects a valid decimal"
  | .repetitionCountUnclosed => "unclosed counted repetition"
  | .repetitionMissing => "repetition operator missing expression"
  | .specialWordBoundaryUnclosed =>
    "special word boundary assertion is either unclosed or contains an invalid character"
  | .specialWordBoundaryUnrecognized =>
    "unrecognized special word boundary assertion, valid choices are: start, end, start-half " ++
      "or end-half"
  | .specialWordOrRepetitionUnexpectedEof =>
    "found either the beginning of a special word boundary or a bounded repetition on a \\b " ++
      "with an opening brace, but no closing brace"
  | .unicodeClassInvalid => "invalid Unicode character class"
  | .unsupportedBackreference => "backreferences are not supported"
  | .unsupportedLookAround =>
    "look-around, including look-ahead and look-behind, is not supported"
  | .unicodeNotAllowed => "Unicode not allowed here"
  | .invalidUtf8 => "pattern can match invalid UTF-8"
  | .unicodePropertyNotFound => "Unicode property not found"
  | .unicodePropertyValueNotFound => "Unicode property value not found"
  | .nestLimitExceeded limit =>
    "exceed the maximum number of nested parentheses/brackets (" ++ toString limit ++ ")"

/-- An error in a pattern: what is wrong, where, and where the first of two duplicates is. -/
structure PatternError where
  kind : ErrorKind
  span : Span
  aux : Option Span := none
deriving DecidableEq, Repr

/-- The lines of a text: split at line feeds, a carriage return before a line feed dropped, and
no line after a final line feed. -/
def textLines (s : String) : List String :=
  (go s.toList []).map String.ofList
where
  go : List Char → List Char → List (List Char)
    | [], rev => if rev.isEmpty then [] else [rev.reverse]
    | '\n' :: rest, rev =>
      (match rev with
        | '\r' :: r => r.reverse
        | _ => rev.reverse) :: go rest []
    | c :: rest, rev => go rest (c :: rev)

/-- `n` copies of a character. -/
def repeatChar (c : Char) (n : Nat) : String :=
  String.ofList (List.replicate n c)

/-- The caret line under one line of the pattern for the spans on it, sorted, after `pad`
spaces. -/
def caretLine (pad : Nat) (spans : List Span) : String :=
  let (text, _) := spans.foldl (fun (acc : String × Nat) s =>
      let (out, pos) := acc
      let gap := s.start.column - 1 - pos
      let width := max 1 (s.stop.column - s.start.column)
      (out ++ repeatChar ' ' gap ++ repeatChar '^' width, pos + gap + width))
    (repeatChar ' ' pad, 0)
  text

/-- Orders spans by their start, then their stop. -/
def Span.before (a b : Span) : Bool :=
  a.start.index < b.start.index ||
    (a.start.index == b.start.index && a.stop.index ≤ b.stop.index)

/-- The text of an error in a pattern. -/
def PatternError.render (e : PatternError) (pattern : String) : String :=
  let spans := e.span :: e.aux.toList
  let lines := textLines pattern
  let count := lines.length + (if pattern.endsWith "\n" then 1 else 0)
  let width := if count ≤ 1 then 0 else (toString count).length
  let pad := if width == 0 then 4 else 2 + width
  let oneLine := (spans.filter Span.isOneLine).mergeSort Span.before
  let multiLine := (spans.filter (!·.isOneLine)).mergeSort Span.before
  let notated := String.join (lines.zipIdx.map fun (l, i) =>
    let number := if width > 0 then
        let n := toString (i + 1)
        repeatChar ' ' (width - n.length) ++ n ++ ": "
      else "    "
    let here := oneLine.filter (·.start.line == i + 1)
    number ++ l ++ "\n" ++ (if here.isEmpty then "" else caretLine pad here ++ "\n"))
  if pattern.toList.contains '\n' then
    let divider := repeatChar '~' 79
    let notes := multiLine.map fun s =>
      "on line " ++ toString s.start.line ++ " (column " ++ toString s.start.column ++
        ") through line " ++ toString s.stop.line ++ " (column " ++
        toString (s.stop.column - 1) ++ ")"
    "regex parse error:\n" ++ divider ++ "\n" ++ notated ++ divider ++ "\n" ++
      (if notes.isEmpty then "" else "\n".intercalate notes ++ "\n") ++
      "error: " ++ e.kind.message
  else
    "regex parse error:\n" ++ notated ++ "error: " ++ e.kind.message

end ManifestLint.Pattern
