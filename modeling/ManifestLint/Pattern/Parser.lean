import ManifestLint.Pattern.Error
import ManifestLint.Text.Blank
import ManifestLint.Text.Identifier
import ManifestLint.Text.RangeTable

/-! # Reading patterns

A pattern is read left to right into its syntax. Groups and alternations being read are kept on a
stack, and so are the bracketed classes being read with their pending set operations, so that a
closing parenthesis or bracket finds what it closes. Set operations in a class group to the left.

What the reader refuses, with the span it points at:

* an unclosed or unopened group, an unclosed class, a repetition with nothing to repeat, a counted
  repetition whose start exceeds its end or that is not closed;
* an escape that is unknown, incomplete, a back-reference, or a hexadecimal escape that is not a
  character;
* a flag that is unknown, repeated, or a dangling or repeated `-`;
* a capture name that is empty, unclosed, badly formed, or used twice (the second span points at
  the first use);
* look-around, and a class range whose ends are not characters in order.

In the `x` mode blanks and `#` comments between items are skipped.
-/

namespace ManifestLint.Pattern

/-- A concatenation being read: where it starts, after the opening of its group or the bar
before it, and its items so far. -/
structure Concat where
  start : Position
  items : Array Ast := #[]

/-- The pattern of a concatenation that ends at `stop`. -/
def Concat.toAst (c : Concat) (stop : Position) : Ast :=
  match c.items.toList with
  | [] => .empty
  | [a] => a
  | as => .concat ⟨c.start, stop⟩ as

/-- A group opened and not yet closed: the span of its parenthesis and its flags. -/
structure OpenGroup where
  span : Span
  flags : Option (List FlagItem)

/-- What the stack of groups holds: an open group with the concatenation before it and the `x`
mode outside it, or where an alternation starts and its branches read so far. -/
inductive GroupFrame
  | group (prior : Concat) (g : OpenGroup) (ignoreSpace : Bool)
  | alternation (start : Position) (branches : Array Ast)

/-- The items of a class being read, and where the empty item would stand: after the opening
bracket or the operator before them. -/
structure OpenUnion where
  start : Position
  items : Array ClassItem := #[]

/-- Adds an item. -/
def OpenUnion.push (u : OpenUnion) (i : ClassItem) : OpenUnion :=
  { u with items := u.items.push i }

/-- The class item of the items read: the empty item, the one item, or their union, which spans
from the first to the last. -/
def OpenUnion.toItem (u : OpenUnion) : ClassItem :=
  match u.items.toList with
  | [] => .empty ⟨u.start, u.start⟩
  | [i] => i
  | i :: is => .union ⟨i.span.start, (is.getLastD i).span.stop⟩ (i :: is)

/-- What the stack of classes holds: an open class with the items of the class around it, or the
left side of a set operation. -/
inductive ClassFrame
  | opened (parent : OpenUnion) (span : Span) (negated : Bool)
  | op (kind : SetOp) (lhs : ClassSet)

/-- The state of the reader. -/
structure Parser where
  text : Array Char
  pos : Position := ⟨0, 1, 1⟩
  ignoreSpace : Bool := false
  groups : List GroupFrame := []
  classes : List ClassFrame := []
  names : List (String × Span) := []

/-- Reading a pattern. -/
abbrev ParseM := StateT Parser (Except PatternError)

/-- An item read where a pattern or a class item may stand. -/
inductive Primitive
  | literal (l : Literal)
  | assertion (span : Span) (kind : Assertion)
  | dot (span : Span)
  | perl (span : Span) (kind : PerlKind) (negated : Bool)
  | unicode (span : Span) (query : UnicodeQuery) (negated : Bool)

namespace Primitive

/-- The span of an item. -/
def span : Primitive → Span
  | literal l => l.span
  | assertion s _ | dot s | perl s _ _ | unicode s _ _ => s

/-- The pattern of an item. -/
def toAst : Primitive → Ast
  | literal l => .literal l
  | assertion s k => .assertion s k
  | dot s => .dot s
  | perl s k n => .perl s k n
  | unicode s q n => .unicode s q n

/-- The class item of an item; assertions and the dot are refused in classes. -/
def toClassItem : Primitive → Except PatternError ClassItem
  | literal l => .ok (.literal l)
  | perl s k n => .ok (.perl s k n)
  | unicode s q n => .ok (.unicode s q n)
  | p => .error ⟨.classEscapeInvalid, p.span, none⟩

/-- The literal of an item at an end of a class range. -/
def toLiteral : Primitive → Except PatternError Literal
  | literal l => .ok l
  | p => .error ⟨.classRangeLiteral, p.span, none⟩

end Primitive

/-- The characters that have a meaning of their own and are escaped to stand for themselves. -/
def isMetaCharacter (c : Char) : Bool :=
  "\\.+*?()|[]{}^$#&-~".toList.contains c

/-- Whether an escaped character stands for itself: meta characters, and ASCII characters other
than letters, digits, `<` and `>`. -/
def isEscapeable (c : Char) : Bool :=
  isMetaCharacter c ||
    (c.toNat ≤ 0x7F && !c.isAlphanum && c != '<' && c != '>')

/-- Whether a character may stand in a capture name, first or later. -/
def isCaptureChar (c : Char) (first : Bool) : Bool :=
  if first then c == '_' || Text.isAlphabetic c
  else c == '_' || c == '.' || c == '[' || c == ']' || Text.isAlphabetic c || Text.isNumeric c

/-- Whether a character is a hexadecimal digit. -/
def isHexDigit (c : Char) : Bool :=
  c.isDigit || ('a' ≤ c && c ≤ 'f') || ('A' ≤ c && c ≤ 'F')

/-- The value of hexadecimal digits. -/
def hexValue (cs : List Char) : Nat :=
  cs.foldl (fun acc c =>
    let d := if c.isDigit then c.toNat - 48 else if c ≤ 'F' then c.toNat - 55 else c.toNat - 87
    16 * acc + d) 0

/-- The character of a code point, if it is one. -/
def scalar? (n : Nat) : Option Char :=
  if n.isValidChar then some (Char.ofNat n) else none

/-- The position after a character. -/
def Position.next (p : Position) (c : Char) : Position :=
  if c == '\n' then ⟨p.index + 1, p.line + 1, 1⟩ else ⟨p.index + 1, p.line, p.column + 1⟩

namespace Parser

/-- Fails with an error. -/
def failAt {α : Type} (kind : ErrorKind) (span : Span) (aux : Option Span := none) :
    ParseM α :=
  throw ⟨kind, span, aux⟩

/-- Fails with the error of a result, or gives its value. -/
def lift {α : Type} : Except PatternError α → ParseM α
  | .ok a => pure a
  | .error e => throw e

/-- The number of characters of the pattern. -/
def size : ParseM Nat :=
  return (← get).text.size

/-- Whether the whole pattern is read. -/
def atEnd : ParseM Bool := do
  let p ← get
  return p.pos.index ≥ p.text.size

def current : ParseM Char := do
  let p ← get
  return p.text.getD p.pos.index '\x00'

def here : ParseM Position :=
  return (← get).pos

/-- The empty span at the current position. -/
def emptySpan : ParseM Span := do
  let p ← here
  return ⟨p, p⟩

/-- The span of the current character. -/
def spanChar : ParseM Span := do
  let p ← here
  return ⟨p, p.next (← current)⟩

/-- Moves past the current character; says whether a character follows. -/
def bump : ParseM Bool := do
  if ← atEnd then return false
  let c ← current
  modify fun s => { s with pos := s.pos.next c }
  return !(← atEnd)

/-- In the `x` mode, skips blanks and comments. -/
def bumpSpace : ParseM Unit := do
  if !(← get).ignoreSpace then return
  for _ in [0:(← size) + 1] do
    if ← atEnd then break
    let c ← current
    if Text.isBlank c then
      let _ ← bump
    else if c == '#' then
      let _ ← bump
      for _ in [0:(← size) + 1] do
        if ← atEnd then break
        let d ← current
        let _ ← bump
        if d == '\n' then break
    else break

/-- Moves past the current character and then past blanks in the `x` mode; says whether a
character follows. -/
def bumpAndBumpSpace : ParseM Bool := do
  if !(← bump) then return false
  bumpSpace
  return !(← atEnd)

/-- The character after the current one. -/
def peek : ParseM (Option Char) := do
  if ← atEnd then return none
  let p ← get
  return p.text[p.pos.index + 1]?

/-- The character after the current one, past blanks and comments in the `x` mode. -/
def peekSpace : ParseM (Option Char) := do
  if !(← get).ignoreSpace then return ← peek
  if ← atEnd then return none
  let p ← get
  let rest := (p.text.toList.drop (p.pos.index + 1))
  let found := go rest false
  return match found with
    | some c => some c
    | none => rest.head?
where
  go : List Char → Bool → Option Char
    | [], _ => none
    | c :: cs, inComment =>
      if Text.isBlank c then go cs inComment
      else if !inComment && c == '#' then go cs true
      else if inComment && c == '\n' then go cs false
      else some c

/-- Moves past a text if it comes next. -/
def bumpIf (s : String) : ParseM Bool := do
  let p ← get
  let cs := s.toList
  if (p.text.toList.drop p.pos.index).take cs.length == cs then
    for _ in cs do
      let _ ← bump
    return true
  else return false

/-- The error of a class left open: it points at the innermost open bracket. -/
def unclosedClass : ParseM PatternError := do
  let open? := (← get).classes.findSome? fun
    | .opened _ span _ => some span
    | .op _ _ => none
  return ⟨.classUnclosed, open?.getD default, none⟩

/-- Reads a flag letter. -/
def parseFlag : ParseM Flag := do
  match ← current with
  | 'i' => return .caseInsensitive
  | 'm' => return .multiLine
  | 's' => return .dotMatchesNewLine
  | 'U' => return .swapGreed
  | 'u' => return .unicode
  | 'R' => return .crlf
  | 'x' => return .ignoreWhitespace
  | _ => failAt .flagUnrecognized (← spanChar)

/-- Reads flags up to a `:` or `)`. -/
def parseFlags : ParseM (List FlagItem) := do
  let mut items : Array (FlagItem × Span) := #[]
  let mut lastNegation : Option Span := none
  for _ in [0:(← size) + 1] do
    let c ← current
    if c == ':' || c == ')' then break
    let sp ← spanChar
    if c == '-' then
      lastNegation := some sp
      match items.find? (·.1 == .negation) with
      | some (_, first) => failAt .flagRepeatedNegation sp (some first)
      | none => items := items.push (.negation, sp)
    else
      lastNegation := none
      let f ← parseFlag
      match items.find? (·.1 == .flag f) with
      | some (_, first) => failAt .flagDuplicate sp (some first)
      | none => items := items.push (.flag f, sp)
    if !(← bump) then failAt .flagUnexpectedEof (← emptySpan)
  if let some sp := lastNegation then failAt .flagDanglingNegation sp
  return items.toList.map (·.1)

/-- Reads a capture name after `(?P<` or `(?<`, up to and past its `>`. -/
def parseCaptureName : ParseM Unit := do
  if ← atEnd then failAt .groupNameUnexpectedEof (← emptySpan)
  let start ← here
  let mut name : Array Char := #[]
  for _ in [0:(← size) + 1] do
    let c ← current
    if c == '>' then break
    if !isCaptureChar c ((← here) == start) then failAt .groupNameInvalid (← spanChar)
    name := name.push c
    if !(← bump) then break
  let stop ← here
  if ← atEnd then failAt .groupNameUnexpectedEof (← emptySpan)
  let _ ← bump
  if name.isEmpty then failAt .groupNameEmpty ⟨start, start⟩
  let text := String.ofList name.toList
  let span : Span := ⟨start, stop⟩
  match (← get).names.lookup text with
  | some first => failAt .groupNameDuplicate span (some first)
  | none => modify fun s => { s with names := (text, span) :: s.names }

/-- Reads the opening of a group: flags set for the rest of the enclosing group, or a group
opened. -/
def parseGroup : ParseM (Sum (List FlagItem) OpenGroup) := do
  let openSpan ← spanChar
  let _ ← bump
  bumpSpace
  let lookaround ←
    if ← bumpIf "?=" then pure true
    else if ← bumpIf "?!" then pure true
    else if ← bumpIf "?<=" then pure true
    else bumpIf "?<!"
  if lookaround then failAt .unsupportedLookAround ⟨openSpan.start, ← here⟩
  let innerSpan ← emptySpan
  let named ← if ← bumpIf "?P<" then pure true else bumpIf "?<"
  if named then
    parseCaptureName
    return .inr ⟨openSpan, none⟩
  else if ← bumpIf "?" then
    if ← atEnd then failAt .groupUnclosed innerSpan
    let flags ← parseFlags
    let charEnd ← current
    let _ ← bump
    if charEnd == ')' then
      if flags.isEmpty then failAt .repetitionMissing innerSpan
      return .inl flags
    else return .inr ⟨openSpan, some flags⟩
  else return .inr ⟨openSpan, none⟩

/-- Reads the opening of a group and pushes it. -/
def pushGroup (concat : Concat) : ParseM Concat := do
  match ← parseGroup with
  | .inl flags =>
    if let some v := flagState flags .ignoreWhitespace then
      modify fun s => { s with ignoreSpace := v }
    return { concat with items := concat.items.push (.setFlags flags) }
  | .inr g =>
    let old := (← get).ignoreSpace
    let new := (g.flags.bind (flagState · .ignoreWhitespace)).getD old
    modify fun s => { s with groups := .group concat g old :: s.groups, ignoreSpace := new }
    return { start := ← here }

/-- Closes the innermost group at a `)`. -/
def popGroup (inner : Concat) : ParseM Concat := do
  let s ← get
  let (prior, g, ignore, alt, rest) ← match s.groups with
    | .group prior g ig :: rest => pure (prior, g, ig, none, rest)
    | .alternation start a :: .group prior g ig :: rest =>
      pure (prior, g, ig, some (start, a), rest)
    | _ => failAt .groupUnopened (← spanChar)
  set { s with groups := rest, ignoreSpace := ignore }
  let stop ← here
  let _ ← bump
  let body := match alt with
    | some (start, branches) =>
      Ast.alternation ⟨start, stop⟩ (branches.push (inner.toAst stop)).toList
    | none => inner.toAst stop
  return { prior with items := prior.items.push (.group ⟨g.span.start, ← here⟩ g.flags body) }

/-- Ends a branch of an alternation at a `|`. -/
def pushAlternate (concat : Concat) : ParseM Concat := do
  let stop ← here
  modify fun s => match s.groups with
    | .alternation start branches :: rest =>
      { s with groups := .alternation start (branches.push (concat.toAst stop)) :: rest }
    | gs => { s with groups := .alternation concat.start #[concat.toAst stop] :: gs }
  let _ ← bump
  return { start := ← here }

/-- Ends the pattern: an alternation left open is closed, and a group left open is an error. -/
def popGroupEnd (concat : Concat) : ParseM Ast := do
  let stop ← here
  match (← get).groups with
  | [] => return concat.toAst stop
  | [.alternation start branches] =>
    return .alternation ⟨start, stop⟩ (branches.push (concat.toAst stop)).toList
  | .alternation _ _ :: .group _ g _ :: _ => failAt .groupUnclosed g.span
  | .group _ g _ :: _ => failAt .groupUnclosed g.span
  | _ => return concat.toAst stop

/-- Reads a decimal number of a counted repetition, with blanks around it. -/
def parseDecimal : ParseM Nat := do
  for _ in [0:(← size) + 1] do
    if ← atEnd then break
    if !Text.isBlank (← current) then break
    let _ ← bump
  let start ← here
  let mut digits : Array Char := #[]
  for _ in [0:(← size) + 1] do
    if ← atEnd then break
    let c ← current
    if !c.isDigit then break
    digits := digits.push c
    let _ ← bumpAndBumpSpace
  let span : Span := ⟨start, ← here⟩
  for _ in [0:(← size) + 1] do
    if ← atEnd then break
    if !Text.isBlank (← current) then break
    let _ ← bumpAndBumpSpace
  if digits.isEmpty then failAt .repetitionCountDecimalEmpty span
  let n : Nat := digits.foldl (fun acc c => 10 * acc + (c.toNat - 48)) 0
  if n ≥ Nat.pow 2 32 then failAt .decimalInvalid span
  return n

/-- Whether an item may be repeated. -/
def repeatable : Ast → Bool
  | .empty | .setFlags _ => false
  | _ => true

/-- Reads `?`, `*` or `+` after an item, and a `?` that makes it lazy. -/
def parseUncountedRepetition (concat : Concat) (bounds : Bounds) : ParseM Concat := do
  match concat.items.back? with
  | none => failAt .repetitionMissing (← emptySpan)
  | some a =>
    if !repeatable a then failAt .repetitionMissing (← emptySpan)
    let mut greedy := true
    if ← bump then
      if (← current) == '?' then
        greedy := false
        let _ ← bump
    let r := Ast.repetition ⟨a.span.start, ← here⟩ a bounds greedy
    return { concat with items := concat.items.pop.push r }

/-- Reads a counted repetition `{n}`, `{n,}` or `{n,m}` after an item. -/
def parseCountedRepetition (concat : Concat) : ParseM Concat := do
  let start ← here
  match concat.items.back? with
  | none => failAt .repetitionMissing (← emptySpan)
  | some a =>
    if !repeatable a then failAt .repetitionMissing (← emptySpan)
    if !(← bumpAndBumpSpace) then failAt .repetitionCountUnclosed ⟨start, ← here⟩
    let low ← parseDecimal
    if ← atEnd then failAt .repetitionCountUnclosed ⟨start, ← here⟩
    let mut bounds : Bounds := ⟨low, some low⟩
    if (← current) == ',' then
      if !(← bumpAndBumpSpace) then failAt .repetitionCountUnclosed ⟨start, ← here⟩
      if (← current) != '}' then
        let high ← parseDecimal
        bounds := ⟨low, some high⟩
      else bounds := ⟨low, none⟩
    if ← atEnd then failAt .repetitionCountUnclosed ⟨start, ← here⟩
    if (← current) != '}' then failAt .repetitionCountUnclosed ⟨start, ← here⟩
    let mut greedy := true
    if ← bumpAndBumpSpace then
      if (← current) == '?' then
        greedy := false
        let _ ← bump
    let opSpan : Span := ⟨start, ← here⟩
    match bounds.max with
    | some high => if low > high then failAt .repetitionCountInvalid opSpan
    | none => pure ()
    let r := Ast.repetition ⟨a.span.start, opSpan.stop⟩ a bounds greedy
    return { concat with items := concat.items.pop.push r }

/-- Reads hexadecimal digits of a fixed count. -/
def parseHexDigits (count : Nat) (isByte : Bool) : ParseM Literal := do
  let start ← here
  let mut digits : Array Char := #[]
  for i in [0:count] do
    if i > 0 then
      if !(← bumpAndBumpSpace) then failAt .escapeUnexpectedEof (← emptySpan)
    let c ← current
    if !isHexDigit c then failAt .escapeHexInvalidDigit (← spanChar)
    digits := digits.push c
  let _ ← bumpAndBumpSpace
  let stop ← here
  match scalar? (hexValue digits.toList) with
  | none => failAt .escapeHexInvalid ⟨start, stop⟩
  | some c => return ⟨⟨start, stop⟩, c, isByte⟩

/-- Reads hexadecimal digits between braces. -/
def parseHexBrace : ParseM Literal := do
  let bracePos ← here
  let start := (← spanChar).stop
  let mut digits : Array Char := #[]
  for _ in [0:(← size) + 1] do
    if !(← bumpAndBumpSpace) then break
    let c ← current
    if c == '}' then break
    if !isHexDigit c then failAt .escapeHexInvalidDigit (← spanChar)
    digits := digits.push c
  if ← atEnd then failAt .escapeUnexpectedEof ⟨bracePos, ← here⟩
  let stop ← here
  let _ ← bumpAndBumpSpace
  if digits.isEmpty then failAt .escapeHexEmpty ⟨bracePos, ← here⟩
  match scalar? (hexValue digits.toList) with
  | none => failAt .escapeHexInvalid ⟨start, stop⟩
  | some c => return ⟨⟨start, ← here⟩, c, false⟩

/-- Reads a hexadecimal escape after `\`: `x` with two digits, `u` with four, `U` with eight, or
any of them with digits between braces. -/
def parseHex : ParseM Literal := do
  let kind ← current
  if !(← bumpAndBumpSpace) then failAt .escapeUnexpectedEof (← emptySpan)
  if (← current) == '{' then parseHexBrace
  else parseHexDigits (if kind == 'x' then 2 else if kind == 'u' then 4 else 8) (kind == 'x')

/-- The text before and after the first occurrence of a separator. -/
def splitFirst (sep : List Char) : List Char → List Char → Option (List Char × List Char)
  | [], _ => none
  | c :: rest, before =>
    if sep.isPrefixOf (c :: rest) then some (before.reverse, (c :: rest).drop sep.length)
    else splitFirst sep rest (c :: before)

/-- The query of a Unicode class name between braces: a property and value are separated by
`!=`, else by the first `:`, else by the first `=`. -/
def queryOfName (name : String) : UnicodeQuery :=
  let cs := name.toList
  let pair (neq : Bool) : List Char × List Char → UnicodeQuery
    | (n, v) => .namedValue neq (String.ofList n) (String.ofList v)
  match splitFirst ['!', '='] cs [] with
  | some nv => pair true nv
  | none =>
    match splitFirst [':'] cs [] with
    | some nv => pair false nv
    | none =>
      match splitFirst ['='] cs [] with
      | some nv => pair false nv
      | none => .named name

/-- Reads a Unicode class after `\p` or `\P`; returns where it ends. -/
def parseUnicodeClass : ParseM (Position × UnicodeQuery × Bool) := do
  let negated := (← current) == 'P'
  if !(← bumpAndBumpSpace) then failAt .escapeUnexpectedEof (← emptySpan)
  if (← current) == '{' then
    let mut name : Array Char := #[]
    for _ in [0:(← size) + 1] do
      if !(← bumpAndBumpSpace) then break
      let c ← current
      if c == '}' then break
      name := name.push c
    if ← atEnd then failAt .escapeUnexpectedEof (← emptySpan)
    let _ ← bump
    return (← here, queryOfName (String.ofList name.toList), negated)
  else
    let c ← current
    if c == '\\' then failAt .unicodeClassInvalid (← spanChar)
    let _ ← bumpAndBumpSpace
    return (← here, .oneLetter c, negated)

/-- Reads a special word boundary `{start}`, `{end}`, `{start-half}` or `{end-half}` after `\b`;
nothing if what follows the brace cannot be one. -/
def parseSpecialWordBoundary (wbStart : Position) : ParseM (Option Assertion) := do
  let isNameChar (c : Char) : Bool := c.isAlpha || c == '-'
  let start ← here
  if !(← bumpAndBumpSpace) then
    failAt .specialWordOrRepetitionUnexpectedEof ⟨wbStart, ← here⟩
  let startContents ← here
  if !isNameChar (← current) then
    modify fun s => { s with pos := start }
    return none
  let mut name : Array Char := #[]
  for _ in [0:(← size) + 1] do
    if ← atEnd then break
    let c ← current
    if !isNameChar c then break
    name := name.push c
    let _ ← bumpAndBumpSpace
  if ← atEnd then failAt .specialWordBoundaryUnclosed ⟨start, ← here⟩
  if (← current) != '}' then failAt .specialWordBoundaryUnclosed ⟨start, ← here⟩
  let stop ← here
  let _ ← bump
  match String.ofList name.toList with
  | "start" => return some .wordStart
  | "end" => return some .wordEnd
  | "start-half" => return some .wordStartHalf
  | "end-half" => return some .wordEndHalf
  | _ => failAt .specialWordBoundaryUnrecognized ⟨startContents, stop⟩

/-- Reads an escape starting at `\`. -/
def parseEscape : ParseM Primitive := do
  let start ← here
  if !(← bump) then failAt .escapeUnexpectedEof ⟨start, ← here⟩
  let c ← current
  if c.isDigit then failAt .unsupportedBackreference ⟨start, (← spanChar).stop⟩
  if c == 'x' || c == 'u' || c == 'U' then
    let l ← parseHex
    return .literal { l with span := ⟨start, l.span.stop⟩ }
  if c == 'p' || c == 'P' then
    let (stop, q, negated) ← parseUnicodeClass
    return .unicode ⟨start, stop⟩ q negated
  if "dswDSW".toList.contains c then
    let sp ← spanChar
    let _ ← bump
    let kind : PerlKind := if c == 'd' || c == 'D' then .digit
      else if c == 's' || c == 'S' then .space else .word
    return .perl ⟨start, sp.stop⟩ kind c.isUpper
  let _ ← bump
  let span : Span := ⟨start, ← here⟩
  if isEscapeable c then return .literal ⟨span, c, false⟩
  match c with
  | 'a' => return .literal ⟨span, '\x07', false⟩
  | 'f' => return .literal ⟨span, '\x0c', false⟩
  | 't' => return .literal ⟨span, '\t', false⟩
  | 'n' => return .literal ⟨span, '\n', false⟩
  | 'r' => return .literal ⟨span, '\r', false⟩
  | 'v' => return .literal ⟨span, '\x0b', false⟩
  | 'A' => return .assertion span .startText
  | 'z' => return .assertion span .endText
  | 'b' =>
    if ← atEnd then return .assertion span .wordBoundary
    if (← current) != '{' then return .assertion span .wordBoundary
    match ← parseSpecialWordBoundary start with
    | some k => return .assertion ⟨start, ← here⟩ k
    | none => return .assertion span .wordBoundary
  | 'B' => return .assertion span .notWordBoundary
  | '<' => return .assertion span .wordStartAngle
  | '>' => return .assertion span .wordEndAngle
  | _ => failAt .escapeUnrecognized span

/-- Reads an item: an escape, the dot, an anchor or a literal. -/
def parsePrimitive : ParseM Primitive := do
  let c ← current
  if c == '\\' then return ← parseEscape
  let sp ← spanChar
  let _ ← bump
  match c with
  | '.' => return .dot sp
  | '^' => return .assertion sp .startLine
  | '$' => return .assertion sp .endLine
  | _ => return .literal ⟨sp, c, false⟩

/-- Reads an item of a class: an escape or a literal. -/
def parseSetClassItem : ParseM Primitive := do
  if (← current) == '\\' then parseEscape
  else
    let sp ← spanChar
    let c ← current
    let _ ← bump
    return .literal ⟨sp, c, false⟩

/-- Reads an item of a class, or a range of two. -/
def parseSetClassRange : ParseM ClassItem := do
  let first ← parseSetClassItem
  bumpSpace
  if ← atEnd then throw (← unclosedClass)
  let ahead ← peekSpace
  if (← current) != '-' || ahead == some ']' || ahead == some '-' then
    return ← lift first.toClassItem
  if !(← bumpAndBumpSpace) then throw (← unclosedClass)
  let second ← parseSetClassItem
  let span : Span := ⟨first.span.start, second.span.stop⟩
  let lo ← lift first.toLiteral
  let hi ← lift second.toLiteral
  if lo.c > hi.c then failAt .classRangeInvalid span
  return .range span lo hi

/-- Reads the opening of a class: `[`, an optional `^`, leading `-` and a leading `]` as
literals. Returns the span of the opening, whether it negates, and the items read. -/
def parseSetClassOpen : ParseM (Span × Bool × OpenUnion) := do
  let start ← here
  if !(← bumpAndBumpSpace) then failAt .classUnclosed ⟨start, ← here⟩
  let mut negated := false
  if (← current) == '^' then
    if !(← bumpAndBumpSpace) then failAt .classUnclosed ⟨start, ← here⟩
    negated := true
  let mut items : OpenUnion := { start := ← here }
  for _ in [0:(← size) + 1] do
    if (← current) != '-' then break
    items := items.push (.literal ⟨← spanChar, '-', false⟩)
    if !(← bumpAndBumpSpace) then failAt .classUnclosed ⟨start, start⟩
  if items.items.isEmpty && (← current) == ']' then
    items := items.push (.literal ⟨← spanChar, ']', false⟩)
    if !(← bumpAndBumpSpace) then failAt .classUnclosed ⟨start, ← here⟩
  return (⟨start, ← here⟩, negated, items)

/-- Opens a class nested in the current one, or the outermost. -/
def pushClassOpen (parent : OpenUnion) : ParseM OpenUnion := do
  let (span, negated, items) ← parseSetClassOpen
  modify fun s => { s with classes := .opened parent span negated :: s.classes }
  return items

/-- Completes a pending set operation with its right side. -/
def popClassOp (rhs : ClassSet) : ParseM ClassSet := do
  let s ← get
  match s.classes with
  | .op kind lhs :: rest =>
    set { s with classes := rest }
    return .op ⟨lhs.span.start, rhs.span.stop⟩ kind lhs rhs
  | _ => return rhs

/-- Starts a set operation with the items read so far as its left side. -/
def pushClassOp (kind : SetOp) (items : OpenUnion) : ParseM OpenUnion := do
  let lhs ← popClassOp (.item items.toItem)
  modify fun s => { s with classes := .op kind lhs :: s.classes }
  return { start := ← here }

/-- Closes the innermost class at a `]`: the items of the class around it, or the outermost class
when it is closed. -/
def popClass (items : OpenUnion) : ParseM (Sum OpenUnion Bracketed) := do
  let contents ← popClassOp (.item items.toItem)
  let s ← get
  match s.classes with
  | .opened parent span negated :: rest =>
    set { s with classes := rest }
    let _ ← bump
    let b := Bracketed.mk ⟨span.start, ← here⟩ negated contents
    if rest.isEmpty then return .inr b
    else return .inl (parent.push (.bracketed b))
  | _ => throw (← unclosedClass)

/-- Reads a named ASCII class such as `[:alpha:]` inside a class; nothing, and the position left
as it was, if what follows is not one. -/
def parseAsciiClass : ParseM (Option ClassItem) := do
  let start ← here
  let reset : ParseM (Option ClassItem) := do
    modify fun s => { s with pos := start }
    return none
  if !(← bump) then return ← reset
  if (← current) != ':' then return ← reset
  if !(← bump) then return ← reset
  let mut negated := false
  if (← current) == '^' then
    negated := true
    if !(← bump) then return ← reset
  let nameStart := (← here).index
  for _ in [0:(← size) + 1] do
    if (← current) == ':' then break
    if !(← bump) then break
  if ← atEnd then return ← reset
  let p ← get
  let name := String.ofList ((p.text.toList.drop nameStart).take (p.pos.index - nameStart))
  if !(← bumpIf ":]") then return ← reset
  match AsciiKind.ofName? name with
  | none => reset
  | some kind => return some (.ascii ⟨start, ← here⟩ kind negated)

/-- Reads a bracketed class starting at `[`. -/
def parseSetClass : ParseM Bracketed := do
  let mut items : OpenUnion := { start := ← here }
  for _ in [0:(← size) + 1] do
    bumpSpace
    if ← atEnd then throw (← unclosedClass)
    let c ← current
    let next ← peek
    if c == '[' then
      if !(← get).classes.isEmpty then
        if let some cls ← parseAsciiClass then
          items := items.push cls
          continue
      items ← pushClassOpen items
    else if c == ']' then
      match ← popClass items with
      | .inl outer => items := outer
      | .inr b => return b
    else if c == '&' && next == some '&' then
      let _ ← bumpIf "&&"
      items ← pushClassOp .intersection items
    else if c == '-' && next == some '-' then
      let _ ← bumpIf "--"
      items ← pushClassOp .difference items
    else if c == '~' && next == some '~' then
      let _ ← bumpIf "~~"
      items ← pushClassOp .symmetricDifference items
    else
      items := items.push (← parseSetClassRange)
  throw (← unclosedClass)

/-- Reads a whole pattern. -/
def parseAll : ParseM Ast := do
  let mut concat : Concat := { start := ← here }
  for _ in [0:(← size) + 1] do
    bumpSpace
    if ← atEnd then break
    match ← current with
    | '(' => concat ← pushGroup concat
    | ')' => concat ← popGroup concat
    | '|' => concat ← pushAlternate concat
    | '[' =>
      let b ← parseSetClass
      concat := { concat with items := concat.items.push (.bracketed b) }
    | '?' => concat ← parseUncountedRepetition concat ⟨0, some 1⟩
    | '*' => concat ← parseUncountedRepetition concat ⟨0, none⟩
    | '+' => concat ← parseUncountedRepetition concat ⟨1, none⟩
    | '{' => concat ← parseCountedRepetition concat
    | _ =>
      let p ← parsePrimitive
      concat := { concat with items := concat.items.push p.toAst }
  popGroupEnd concat

end Parser

/-- How deeply the parts of a pattern that hold others may nest: groups, repetitions,
alternations, concatenations, bracketed classes, unions of class items and set operations. -/
def nestLimit : Nat := 250

/-- The depth of a part that holds others at `span`, one below `depth`, or the error there when
it passes the limit. -/
def deeper (depth : Nat) (span : Span) : Except PatternError Nat :=
  if depth + 1 > nestLimit then .error ⟨.nestLimitExceeded nestLimit, span, none⟩
  else .ok (depth + 1)

mutual

/-- Checks the nesting of an item of a class at `depth`. -/
def checkItemNesting (depth : Nat) : ClassItem → Except PatternError Unit
  | .bracketed b => checkBracketNesting depth b
  | .union s items => do checkItemsNesting (← deeper depth s) items
  | _ => .ok ()

/-- Checks the nesting of items of a class, in order. -/
def checkItemsNesting (depth : Nat) : List ClassItem → Except PatternError Unit
  | [] => .ok ()
  | i :: is => do
    checkItemNesting depth i
    checkItemsNesting depth is

/-- Checks the nesting of the contents of a class; a set operation nests both its sides. -/
def checkSetNesting (depth : Nat) : ClassSet → Except PatternError Unit
  | .item i => checkItemNesting depth i
  | .op s _ lhs rhs => do
    let d ← deeper depth s
    checkSetNesting d lhs
    checkSetNesting d rhs

/-- Checks the nesting of a bracketed class, which nests its contents. -/
def checkBracketNesting (depth : Nat) : Bracketed → Except PatternError Unit
  | .mk s _ set => do checkSetNesting (← deeper depth s) set

end

mutual

/-- Checks the nesting of a pattern at `depth`: the first part, in the order written, that lies
deeper than the limit gives the error. -/
def checkNesting (depth : Nat) : Ast → Except PatternError Unit
  | .bracketed b => checkBracketNesting depth b
  | .repetition s a _ _ | .group s _ a => do checkNesting (← deeper depth s) a
  | .alternation s as | .concat s as => do checkAllNesting (← deeper depth s) as
  | _ => .ok ()

/-- Checks the nesting of patterns at `depth`, in order. -/
def checkAllNesting (depth : Nat) : List Ast → Except PatternError Unit
  | [] => .ok ()
  | a :: as => do
    checkNesting depth a
    checkAllNesting depth as

end

/-- The syntax of a pattern, or what is wrong with it: first what the reader refuses, then a part
nested too deeply. -/
def parsePattern (pattern : String) : Except PatternError Ast := do
  let ast ← (Parser.parseAll.run { text := pattern.toList.toArray }).map (·.1)
  checkNesting 0 ast
  return ast

end ManifestLint.Pattern
