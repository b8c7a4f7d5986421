import ManifestLint.Yaml.Token

/-! # The YAML lexer

Turns a YAML text into tokens, on demand. The lexer keeps a queue of tokens that the event reader
has not taken yet, and fetches more only when the queue is empty or when its head could still be
preceded by a key (a plain or quoted scalar followed on the same line by `:` turns out to be a key
only when the `:` is seen, and the key token is then inserted before it). Indentation opens and
closes block collections; in the block context a key that starts at the current indentation must
be followed by `:` on the same line.

Every loop over characters is bounded by the number of characters left, since each round of it
consumes one.
-/

namespace ManifestLint.Yaml

/-- Line breaks: carriage return, line feed, next line, line and paragraph separators. -/
def isBreak (c : Char) : Bool :=
  c == '\r' || c == '\n' || c == '\x85' || c == '\u2028' || c == '\u2029'

/-- A space or a tab. -/
def isWhite (c : Char) : Bool :=
  c == ' ' || c == '\t'

/-- A line break or the end of the text, which reads as the character zero. -/
def isBreakZ (c : Char) : Bool :=
  isBreak c || c == '\x00'

/-- A space, a tab, a line break or the end of the text. -/
def isWhiteZ (c : Char) : Bool :=
  isWhite c || isBreakZ c

/-- Characters of anchor names, directive names and tag handles. -/
def isWordChar (c : Char) : Bool :=
  c.isAlphanum || c == '_' || c == '-'

/-- ASCII hexadecimal digits. -/
def isHex (c : Char) : Bool :=
  c.isDigit || ('a' ≤ c && c ≤ 'f') || ('A' ≤ c && c ≤ 'F')

/-- The value of a hexadecimal digit. -/
def hexValue (c : Char) : Nat :=
  if c.isDigit then c.toNat - '0'.toNat
  else if 'a' ≤ c && c ≤ 'f' then c.toNat - 'a'.toNat + 10
  else c.toNat - 'A'.toNat + 10

/-- Characters that may stand in a tag; inside `!<...>` also `,`, `[` and `]`. -/
def isUriChar (verbatim : Bool) (c : Char) : Bool :=
  isWordChar c || ";/?:@&=+$.%!~*'()".toList.contains c ||
    (verbatim && (c == ',' || c == '[' || c == ']'))

/-- A place where a key without `?` may have started. -/
structure SimpleKey where
  possible : Bool := false
  required : Bool := false
  tokenNumber : Nat := 0
  mark : Mark := {}
deriving DecidableEq, Repr, Inhabited

/-- The state of the lexer. -/
structure Lexer where
  chars : Array Char
  mark : Mark := {}
  /-- Tokens fetched and not yet taken, head first. -/
  queue : List Token := []
  /-- How many tokens have been taken. -/
  taken : Nat := 0
  /-- Whether the head of the queue is ready to be taken. -/
  ready : Bool := false
  started : Bool := false
  flowLevel : Nat := 0
  indent : Int := -1
  indents : List Int := []
  keyAllowed : Bool := false
  /-- One possible simple key per flow level, the innermost first. -/
  keys : List SimpleKey := []
deriving Repr, Inhabited

/-- Lexing: a state over the lexer that may stop with a syntax error. -/
abbrev LexM := StateT Lexer (Except SyntaxError)

namespace Lexer

/-- A lexer at the start of a text. -/
def ofString (s : String) : Lexer :=
  { chars := s.toList.toArray }

/-- The character `k` places ahead, or the character zero past the end. -/
def peekAt (l : Lexer) (k : Nat) : Char :=
  l.chars.getD (l.mark.index + k) '\x00'

/-- Whether the next characters are `---` or `...` at the start of a line, then a blank. -/
def atDocumentIndicator (l : Lexer) : Bool :=
  l.mark.column == 0 &&
    ((l.peekAt 0 == '-' && l.peekAt 1 == '-' && l.peekAt 2 == '-') ||
      (l.peekAt 0 == '.' && l.peekAt 1 == '.' && l.peekAt 2 == '.')) &&
    isWhiteZ (l.peekAt 3)

end Lexer

/-- The character `k` places ahead. -/
def cur (k : Nat := 0) : LexM Char := do
  return (← get).peekAt k

/-- A bound on the rounds of a loop that consumes a character each round. -/
def budget : LexM Nat := do
  let l ← get
  return l.chars.size + 2 - l.mark.index

/-- Moves past one character of a line. -/
def skip : LexM Unit :=
  modify fun l =>
    { l with mark := { l.mark with index := l.mark.index + 1,
                                   offset := l.mark.offset + (l.peekAt 0).utf8Size,
                                   column := l.mark.column + 1 } }

/-- Moves past a line break; a carriage return and a line feed count as one. -/
def skipLine : LexM Unit := do
  let l ← get
  if l.peekAt 0 == '\r' && l.peekAt 1 == '\n' then
    set { l with mark := { index := l.mark.index + 2, offset := l.mark.offset + 2,
                           line := l.mark.line + 1, column := 0 } }
  else if isBreak (l.peekAt 0) then
    set { l with mark := { index := l.mark.index + 1, offset := l.mark.offset + (l.peekAt 0).utf8Size,
                           line := l.mark.line + 1, column := 0 } }

/-- Moves past a line break and appends it to `s`: a line feed for carriage returns, line feeds
and next-line characters, and the separator itself for line and paragraph separators. -/
def readLine (s : String) : LexM String := do
  let c ← cur
  if c == '\r' || c == '\n' || c == '\x85' then
    skipLine
    return s.push '\n'
  else if c == '\u2028' || c == '\u2029' then
    skipLine
    return s.push c
  else
    return s

/-- Moves past the characters that satisfy `p`. -/
def skipWhile (p : Char → Bool) : LexM Unit := do
  for _ in [0:← budget] do
    if p (← cur) then skip else break

/-- Moves past the characters that satisfy `p`, appending them to `s`. -/
def readWhile (p : Char → Bool) (s : String) : LexM String := do
  let mut s := s
  for _ in [0:← budget] do
    let c ← cur
    if p c then
      s := s.push c
      skip
    else break
  return s

/-- Stops with a problem at the current mark. -/
def fail {α : Type} (context : Option (String × Mark)) (problem : String) : LexM α := do
  throw { problem, problemMark := (← get).mark, context }

def enqueue (t : Token) : LexM Unit :=
  modify fun l => { l with queue := l.queue ++ [t] }

/-- Inserts a token into the queue before the token with the given number. -/
def insertAt (number : Nat) (t : Token) : LexM Unit :=
  modify fun l =>
    let i := number - l.taken
    { l with queue := l.queue.take i ++ [t] ++ l.queue.drop i }

/-! ## Simple keys and indentation -/

/-- The problem of a required key that was not followed by `:`. -/
def keyProblem (k : SimpleKey) : LexM PUnit :=
  fail (some ("while scanning a simple key", k.mark)) "could not find expected ':'"

/-- Forgets the possible keys that can no longer be keys: a key ends on its line and within
1024 bytes. -/
def staleKeys : LexM Unit := do
  let l ← get
  let mut keys := []
  for k in l.keys do
    if k.possible && (k.mark.line < l.mark.line || k.mark.offset + 1024 < l.mark.offset) then
      if k.required then keyProblem k
      keys := keys ++ [{ k with possible := false }]
    else
      keys := keys ++ [k]
  set { l with keys }

/-- Forgets the possible key of the current flow level. -/
def removeKey : LexM Unit := do
  let l ← get
  match l.keys with
  | k :: rest =>
    if k.possible && k.required then keyProblem k
    set { l with keys := { k with possible := false } :: rest }
  | [] => pure ()

/-- Records that a key may start here, if keys are allowed here. -/
def saveKey : LexM Unit := do
  let l ← get
  if l.keyAllowed then
    let key : SimpleKey :=
      { possible := true
        required := l.flowLevel == 0 && l.indent == (l.mark.column : Int)
        tokenNumber := l.taken + l.queue.length
        mark := l.mark }
    removeKey
    modify fun l => { l with keys := key :: l.keys.drop 1 }

/-- Enters a flow collection. -/
def increaseFlowLevel : LexM Unit :=
  modify fun l => { l with keys := {} :: l.keys, flowLevel := l.flowLevel + 1 }

/-- Leaves a flow collection. -/
def decreaseFlowLevel : LexM Unit :=
  modify fun l =>
    if l.flowLevel > 0 then { l with flowLevel := l.flowLevel - 1, keys := l.keys.drop 1 } else l

/-- Opens a block collection at `column` if it is deeper than the current indentation. The start
token goes at the end of the queue, or before the token with the given number. -/
def rollIndent (column : Int) (number : Option Nat) (kind : TokenKind) (mark : Mark) :
    LexM Unit := do
  let l ← get
  if l.flowLevel == 0 && l.indent < column then
    set { l with indents := l.indent :: l.indents, indent := column }
    let t : Token := ⟨kind, mark, mark⟩
    match number with
    | none => enqueue t
    | some n => insertAt n t

/-- Closes the block collections deeper than `column`. -/
def unrollIndent (column : Int) : LexM Unit := do
  if (← get).flowLevel == 0 then
    for _ in [0:(← get).indents.length + 1] do
      let l ← get
      if l.indent > column then
        enqueue ⟨.blockEnd, l.mark, l.mark⟩
        modify fun l => match l.indents with
          | i :: rest => { l with indent := i, indents := rest }
          | [] => { l with indent := -1 }
      else break

/-! ## Blanks and comments -/

/-- Moves past blanks, comments and line breaks up to the next token. A byte order mark may start
a line, and tabs count as blanks only in flow collections or where no key may start. -/
def scanToNextToken : LexM Unit := do
  for _ in [0:← budget] do
    let l ← get
    if l.mark.column == 0 && l.peekAt 0 == '\uFEFF' then skip
    let l ← get
    skipWhile fun c => c == ' ' || ((l.flowLevel > 0 || !l.keyAllowed) && c == '\t')
    if (← cur) == '#' then skipWhile (!isBreakZ ·)
    if isBreak (← cur) then
      skipLine
      if (← get).flowLevel == 0 then modify fun l => { l with keyAllowed := true }
    else break

/-! ## Directives -/

/-- Reads the decimal number of a version directive, of at most nine digits. -/
def scanVersionNumber (start : Mark) : LexM Nat := do
  let ctx := some ("while scanning a %YAML directive", start)
  let mut value := 0
  let mut length := 0
  for _ in [0:← budget] do
    let c ← cur
    if !c.isDigit then break
    length := length + 1
    if length > 9 then fail ctx "found extremely long version number"
    value := value * 10 + (c.toNat - '0'.toNat)
    skip
  if length == 0 then fail ctx "did not find expected version number"
  return value

/-- Reads a tag handle: `!`, `!!` or `!name!`. In a directive the handle must end with `!`. -/
def scanTagHandle (directive : Bool) (start : Mark) : LexM String := do
  if (← cur) != '!' then
    fail (some (if directive then "while scanning a tag directive" else "while scanning a tag", start))
      "did not find expected '!'"
  skip
  let s ← readWhile isWordChar "!"
  if (← cur) == '!' then
    skip
    return s.push '!'
  else
    if directive && s != "!" then
      fail (some ("while parsing a tag directive", start)) "did not find expected '!'"
    return s

/-- Reads one character written as `%` escapes of its UTF-8 octets. -/
def scanUriEscapes (directive : Bool) (start : Mark) : LexM Char := do
  let ctx := some (if directive then "while parsing a %TAG directive" else "while parsing a tag", start)
  let octet : LexM Nat := do
    let l ← get
    if !(l.peekAt 0 == '%' && isHex (l.peekAt 1) && isHex (l.peekAt 2)) then
      fail ctx "did not find URI escaped octet"
    let o := hexValue (l.peekAt 1) * 16 + hexValue (l.peekAt 2)
    skip; skip; skip
    return o
  let lead ← octet
  let width :=
    if lead / 128 == 0 then 1 else if lead / 32 == 6 then 2 else if lead / 16 == 14 then 3
    else if lead / 8 == 30 then 4 else 0
  if width == 0 then fail ctx "found an incorrect leading UTF-8 octet"
  let mut octets := #[lead.toUInt8]
  for _ in [1:width] do
    let o ← octet
    if o / 64 != 2 then fail ctx "found an incorrect trailing UTF-8 octet"
    octets := octets.push o.toUInt8
  match String.fromUTF8? (ByteArray.mk octets) with
  | some s => return s.toList.headD '\uFFFD'
  | none => return '\uFFFD'

/-- Reads the rest of a tag after its handle. `head` is a handle that turned out to be part of
the tag; its leading `!` is dropped. -/
def scanTagUri (verbatim directive : Bool) (head : String) (start : Mark) : LexM String := do
  let mut s := String.ofList (head.toList.drop 1)
  let mut length := head.length
  for _ in [0:← budget] do
    let c ← cur
    if !isUriChar verbatim c then break
    if c == '%' then
      s := s.push (← scanUriEscapes directive start)
    else
      s := s.push c
      skip
    length := length + 1
  if length == 0 then
    fail (some (if directive then "while parsing a %TAG directive" else "while parsing a tag", start))
      "did not find expected tag URI"
  return s

/-- Reads a `%YAML` or `%TAG` directive and the rest of its line. -/
def scanDirective : LexM Token := do
  let start := (← get).mark
  let ctx := some ("while scanning a directive", start)
  skip
  let name ← readWhile isWordChar ""
  if name.isEmpty then fail ctx "could not find expected directive name"
  if !isWhiteZ (← cur) then fail ctx "found unexpected non-alphabetical character"
  let kind ← if name == "YAML" then do
      skipWhile isWhite
      let major ← scanVersionNumber start
      if (← cur) != '.' then
        fail (some ("while scanning a %YAML directive", start))
          "did not find expected digit or '.' character"
      skip
      let minor ← scanVersionNumber start
      pure (TokenKind.versionDirective major minor)
    else if name == "TAG" then do
      skipWhile isWhite
      let handle ← scanTagHandle true start
      if !isWhite (← cur) then
        fail (some ("while scanning a %TAG directive", start)) "did not find expected whitespace"
      skipWhile isWhite
      let expansion ← scanTagUri true true "" start
      if !isWhiteZ (← cur) then
        fail (some ("while scanning a %TAG directive", start))
          "did not find expected whitespace or line break"
      pure (TokenKind.tagDirective handle expansion)
    else fail ctx "found unknown directive name"
  let stop := (← get).mark
  skipWhile isWhite
  if (← cur) == '#' then skipWhile (!isBreakZ ·)
  if !isBreakZ (← cur) then fail ctx "did not find expected comment or line break"
  if isBreak (← cur) then skipLine
  return ⟨kind, start, stop⟩

/-! ## Properties -/

/-- Reads an anchor `&name` or an alias `*name`. -/
def scanAnchor (isAlias : Bool) : LexM Token := do
  let start := (← get).mark
  skip
  let name ← readWhile isWordChar ""
  let stop := (← get).mark
  let c ← cur
  if name.isEmpty || !(isWhiteZ c || c == '?' || c == ':' || c == ',' || c == ']' ||
      c == '\x7d' || c == '%' || c == '@' || c == '\x60') then
    fail (some (if isAlias then "while scanning an alias" else "while scanning an anchor", start))
      "did not find expected alphabetic or numeric character"
  return ⟨if isAlias then .alias name else .anchor name, start, stop⟩

/-- Reads a tag: `!<verbatim>`, `!handle!suffix`, `!suffix` or the lone `!`. -/
def scanTag : LexM Token := do
  let start := (← get).mark
  let (handle, suffix) ← if (← cur 1) == '<' then do
      skip; skip
      let suffix ← scanTagUri true false "" start
      if (← cur) != '>' then fail (some ("while scanning a tag", start)) "did not find the expected '>'"
      skip
      pure ("", suffix)
    else do
      let handle ← scanTagHandle false start
      if handle.length > 1 && handle.startsWith "!" && handle.endsWith "!" then
        let suffix ← scanTagUri false false "" start
        pure (handle, suffix)
      else
        let suffix ← scanTagUri false false handle start
        pure (if suffix.isEmpty then ("", "!") else ("!", suffix))
  let c ← cur
  if !isWhiteZ c && ((← get).flowLevel == 0 || c != ',') then
    fail (some ("while scanning a tag", start)) "did not find expected whitespace or line break"
  return ⟨.tag handle suffix, start, (← get).mark⟩

/-! ## Scalars -/

/-- Reads the indentation and empty lines before a line of a block scalar; fixes the scalar's
indentation from the deepest of them when no indicator gave it. Returns the indentation, the
breaks read and the mark after the last break. -/
def scanBlockBreaks (indent : Nat) (start : Mark) (breaks : String) :
    LexM (Nat × String × Mark) := do
  let mut breaks := breaks
  let mut maxIndent := 0
  let mut stop := (← get).mark
  for _ in [0:← budget] do
    for _ in [0:← budget] do
      let l ← get
      if (indent == 0 || l.mark.column < indent) && l.peekAt 0 == ' ' then skip else break
    let l ← get
    if l.mark.column > maxIndent then maxIndent := l.mark.column
    if (indent == 0 || l.mark.column < indent) && l.peekAt 0 == '\t' then
      fail (some ("while scanning a block scalar", start))
        "found a tab character where an indentation space is expected"
    if !isBreak (l.peekAt 0) then break
    breaks ← readLine breaks
    stop := (← get).mark
  if indent != 0 then return (indent, breaks, stop)
  let parent := (← get).indent
  let chosen : Int := max (max (maxIndent : Int) (parent + 1)) 1
  return (chosen.toNat, breaks, stop)

/-- Reads a literal (`|`) or folded (`>`) block scalar with its indicators. -/
def scanBlockScalar (literal : Bool) : LexM Token := do
  let start := (← get).mark
  let ctx := some ("while scanning a block scalar", start)
  skip
  let mut chomping : Int := 0
  let mut increment : Nat := 0
  let c ← cur
  if c == '+' || c == '-' then
    chomping := if c == '+' then 1 else -1
    skip
    let d ← cur
    if d.isDigit then
      if d == '0' then fail ctx "found an indentation indicator equal to 0"
      increment := d.toNat - '0'.toNat
      skip
  else if c.isDigit then
    if c == '0' then fail ctx "found an indentation indicator equal to 0"
    increment := c.toNat - '0'.toNat
    skip
    let d ← cur
    if d == '+' || d == '-' then
      chomping := if d == '+' then 1 else -1
      skip
  skipWhile isWhite
  if (← cur) == '#' then skipWhile (!isBreakZ ·)
  if !isBreakZ (← cur) then fail ctx "did not find expected comment or line break"
  if isBreak (← cur) then skipLine
  let parent := (← get).indent
  let given : Nat :=
    if increment == 0 then 0 else if parent ≥ 0 then (parent + increment).toNat else increment
  let (indent, breaks, stop0) ← scanBlockBreaks given start ""
  let mut trailingBreaks := breaks
  let mut stop := stop0
  let mut s := ""
  let mut leadingBreak := ""
  let mut leadingBlank := false
  for _ in [0:← budget] do
    let l ← get
    if !(l.mark.column == indent && l.peekAt 0 != '\x00') then break
    let trailingBlank := isWhite (l.peekAt 0)
    if !literal && leadingBreak.startsWith "\n" && !leadingBlank && !trailingBlank then
      if trailingBreaks.isEmpty then s := s.push ' '
    else
      s := s ++ leadingBreak
    leadingBreak := ""
    s := s ++ trailingBreaks
    trailingBreaks := ""
    leadingBlank := isWhite (l.peekAt 0)
    s ← readWhile (!isBreakZ ·) s
    leadingBreak ← readLine ""
    let (_, tb, e) ← scanBlockBreaks indent start ""
    trailingBreaks := tb
    stop := e
  if chomping != -1 then s := s ++ leadingBreak
  if chomping == 1 then s := s ++ trailingBreaks
  return ⟨.scalar s (if literal then .literal else .folded), start, stop⟩

/-- The character a one-letter escape of a double-quoted scalar stands for, or the number of hex
digits that follow `x`, `u` and `U`. -/
def escapeOf : Char → Option (Sum Char Nat)
  | '0' => some (.inl '\x00')
  | 'a' => some (.inl '\x07')
  | 'b' => some (.inl '\x08')
  | 't' => some (.inl '\t')
  | '\t' => some (.inl '\t')
  | 'n' => some (.inl '\n')
  | 'v' => some (.inl '\x0b')
  | 'f' => some (.inl '\x0c')
  | 'r' => some (.inl '\r')
  | 'e' => some (.inl '\x1b')
  | ' ' => some (.inl ' ')
  | '"' => some (.inl '"')
  | '/' => some (.inl '/')
  | '\'' => some (.inl '\'')
  | '\\' => some (.inl '\\')
  | 'N' => some (.inl '\x85')
  | '_' => some (.inl '\xa0')
  | 'L' => some (.inl '\u2028')
  | 'P' => some (.inl '\u2029')
  | 'x' => some (.inr 2)
  | 'u' => some (.inr 4)
  | 'U' => some (.inr 8)
  | _ => none

/-- Folds the line breaks between two parts of a flow or plain scalar: a single line feed becomes
a space, further breaks are kept, and separators are kept as they are. -/
def foldBreaks (s leadingBreak trailingBreaks : String) : String :=
  if leadingBreak.startsWith "\n" then
    if trailingBreaks.isEmpty then s.push ' ' else s ++ trailingBreaks
  else s ++ leadingBreak ++ trailingBreaks

/-- Reads a single- or double-quoted scalar. -/
def scanFlowScalar (single : Bool) : LexM Token := do
  let start := (← get).mark
  let quote := if single then '\'' else '"'
  skip
  let mut s := ""
  for _ in [0:← budget] do
    let l ← get
    if l.atDocumentIndicator then
      fail (some ("while scanning a quoted scalar", start)) "found unexpected document indicator"
    if l.peekAt 0 == '\x00' then
      fail (some ("while scanning a quoted scalar", start)) "found unexpected end of stream"
    let mut leadingBlanks := false
    for _ in [0:← budget] do
      let l ← get
      let c := l.peekAt 0
      if isWhiteZ c then break
      if single && c == '\'' && l.peekAt 1 == '\'' then
        s := s.push '\''
        skip; skip
      else if c == quote then break
      else if !single && c == '\\' && isBreak (l.peekAt 1) then
        skip; skipLine
        leadingBlanks := true
        break
      else if !single && c == '\\' then
        match escapeOf (l.peekAt 1) with
        | none =>
          fail (some ("while parsing a quoted scalar", start)) "found unknown escape character"
        | some (.inl e) =>
          s := s.push e
          skip; skip
        | some (.inr width) =>
          skip; skip
          let mut value := 0
          for k in [0:width] do
            let d ← cur k
            if !isHex d then
              fail (some ("while parsing a quoted scalar", start))
                "did not find expected hexdecimal number"
            value := value * 16 + hexValue d
          if (0xD800 ≤ value && value ≤ 0xDFFF) || value > 0x10FFFF then
            fail (some ("while parsing a quoted scalar", start))
              "found invalid Unicode character escape code"
          s := s.push (Char.ofNat value)
          for _ in [0:width] do skip
      else
        s := s.push c
        skip
    if (← cur) == quote then break
    let mut whitespaces := ""
    let mut leadingBreak := ""
    let mut trailingBreaks := ""
    for _ in [0:← budget] do
      let c ← cur
      if isWhite c then
        if !leadingBlanks then whitespaces := whitespaces.push c
        skip
      else if isBreak c then
        if !leadingBlanks then
          whitespaces := ""
          leadingBreak ← readLine leadingBreak
          leadingBlanks := true
        else
          trailingBreaks ← readLine trailingBreaks
      else break
    s := if leadingBlanks then foldBreaks s leadingBreak trailingBreaks else s ++ whitespaces
  skip
  return ⟨.scalar s (if single then .singleQuoted else .doubleQuoted), start, (← get).mark⟩

/-- Reads a plain scalar. It ends before `: `, before ` #`, at a document indicator, at a line
that is not indented past the enclosing block, and in flow collections also before `,[]{}`. -/
def scanPlainScalar : LexM Token := do
  let start := (← get).mark
  let indent : Int := (← get).indent + 1
  let mut stop := start
  let mut s := ""
  let mut leadingBlanks := false
  let mut whitespaces := ""
  let mut leadingBreak := ""
  let mut trailingBreaks := ""
  for _ in [0:← budget] do
    let l ← get
    if l.atDocumentIndicator || l.peekAt 0 == '#' then break
    for _ in [0:← budget] do
      let l ← get
      let c := l.peekAt 0
      if isWhiteZ c then break
      if l.flowLevel > 0 && c == ':' && ",?[]\x7b\x7d".toList.contains (l.peekAt 1) then
        fail (some ("while scanning a plain scalar", start)) "found unexpected ':'"
      if (c == ':' && isWhiteZ (l.peekAt 1)) || (l.flowLevel > 0 && ",[]\x7b\x7d".toList.contains c) then
        break
      if leadingBlanks then
        s := foldBreaks s leadingBreak trailingBreaks
        leadingBreak := ""
        trailingBreaks := ""
        leadingBlanks := false
      else if !whitespaces.isEmpty then
        s := s ++ whitespaces
        whitespaces := ""
      s := s.push c
      skip
      stop := (← get).mark
    let c ← cur
    if !(isWhite c || isBreak c) then break
    for _ in [0:← budget] do
      let l ← get
      let c := l.peekAt 0
      if isWhite c then
        if leadingBlanks && (l.mark.column : Int) < indent && c == '\t' then
          fail (some ("while scanning a plain scalar", start))
            "found a tab character that violates indentation"
        if !leadingBlanks then whitespaces := whitespaces.push c
        skip
      else if isBreak c then
        if !leadingBlanks then
          whitespaces := ""
          leadingBreak ← readLine leadingBreak
          leadingBlanks := true
        else
          trailingBreaks ← readLine trailingBreaks
      else break
    let l ← get
    if l.flowLevel == 0 && (l.mark.column : Int) < indent then break
  if leadingBlanks then modify fun l => { l with keyAllowed := true }
  return ⟨.scalar s .plain, start, stop⟩

/-! ## Fetching tokens -/

def fetchStreamStart : LexM Unit := do
  modify fun l => { l with indent := -1, keys := [{}], keyAllowed := true, started := true }
  let m := (← get).mark
  enqueue ⟨.streamStart, m, m⟩

/-- Ends the stream on a fresh line, closing every open block. -/
def fetchStreamEnd : LexM Unit := do
  let l ← get
  if l.mark.column != 0 then
    set { l with mark := { l.mark with column := 0, line := l.mark.line + 1 } }
  unrollIndent (-1)
  removeKey
  modify fun l => { l with keyAllowed := false }
  let m := (← get).mark
  enqueue ⟨.streamEnd, m, m⟩

def fetchDirective : LexM Unit := do
  unrollIndent (-1)
  removeKey
  modify fun l => { l with keyAllowed := false }
  enqueue (← scanDirective)

/-- Fetches `---` or `...`. -/
def fetchDocumentIndicator (kind : TokenKind) : LexM Unit := do
  unrollIndent (-1)
  removeKey
  modify fun l => { l with keyAllowed := false }
  let start := (← get).mark
  skip; skip; skip
  enqueue ⟨kind, start, (← get).mark⟩

/-- Fetches a one-character indicator. -/
def fetchIndicator (kind : TokenKind) : LexM Unit := do
  let start := (← get).mark
  skip
  enqueue ⟨kind, start, (← get).mark⟩

/-- Fetches `[` or `{`. -/
def fetchFlowCollectionStart (kind : TokenKind) : LexM Unit := do
  saveKey
  increaseFlowLevel
  modify fun l => { l with keyAllowed := true }
  fetchIndicator kind

/-- Fetches `]` or `}`. -/
def fetchFlowCollectionEnd (kind : TokenKind) : LexM Unit := do
  removeKey
  decreaseFlowLevel
  modify fun l => { l with keyAllowed := false }
  fetchIndicator kind

/-- Fetches `,`. -/
def fetchFlowEntry : LexM Unit := do
  removeKey
  modify fun l => { l with keyAllowed := true }
  fetchIndicator .flowEntry

/-- Fetches `-` before an entry of a block sequence. -/
def fetchBlockEntry : LexM Unit := do
  let l ← get
  if l.flowLevel == 0 then
    if !l.keyAllowed then fail none "block sequence entries are not allowed in this context"
    rollIndent l.mark.column none .blockSequenceStart l.mark
  removeKey
  modify fun l => { l with keyAllowed := true }
  fetchIndicator .blockEntry

/-- Fetches `?` before a key. -/
def fetchKey : LexM Unit := do
  let l ← get
  if l.flowLevel == 0 then
    if !l.keyAllowed then fail none "mapping keys are not allowed in this context"
    rollIndent l.mark.column none .blockMappingStart l.mark
  removeKey
  modify fun l => { l with keyAllowed := l.flowLevel == 0 }
  fetchIndicator .key

/-- Fetches `:` before a value. When a key may have started on this line, the key token (and, in
the block context, the start of a mapping) is inserted where the key started. -/
def fetchValue : LexM Unit := do
  let l ← get
  match l.keys with
  | k :: rest =>
    if k.possible then
      insertAt k.tokenNumber ⟨.key, k.mark, k.mark⟩
      rollIndent k.mark.column (some k.tokenNumber) .blockMappingStart k.mark
      modify fun l => { l with keys := { k with possible := false } :: rest, keyAllowed := false }
    else
      if l.flowLevel == 0 then
        if !l.keyAllowed then fail none "mapping values are not allowed in this context"
        rollIndent l.mark.column none .blockMappingStart l.mark
      modify fun l => { l with keyAllowed := l.flowLevel == 0 }
  | [] => pure ()
  fetchIndicator .value

/-- Fetches an anchor or an alias, which may start a key. -/
def fetchAnchor (isAlias : Bool) : LexM Unit := do
  saveKey
  modify fun l => { l with keyAllowed := false }
  enqueue (← scanAnchor isAlias)

/-- Fetches a tag, which may start a key. -/
def fetchTag : LexM Unit := do
  saveKey
  modify fun l => { l with keyAllowed := false }
  enqueue (← scanTag)

/-- Fetches a block scalar, after which a key may start. -/
def fetchBlockScalar (literal : Bool) : LexM Unit := do
  removeKey
  modify fun l => { l with keyAllowed := true }
  enqueue (← scanBlockScalar literal)

/-- Fetches a quoted scalar, which may be a key. -/
def fetchFlowScalar (single : Bool) : LexM Unit := do
  saveKey
  modify fun l => { l with keyAllowed := false }
  enqueue (← scanFlowScalar single)

/-- Fetches a plain scalar, which may be a key. -/
def fetchPlainScalar : LexM Unit := do
  saveKey
  modify fun l => { l with keyAllowed := false }
  enqueue (← scanPlainScalar)

/-- Whether a character may start a plain scalar, given the next one. -/
def startsPlain (flow : Bool) (c next : Char) : Bool :=
  !(isWhiteZ c || "-?:,[]\x7b\x7d#&*!|>'\"%@\x60".toList.contains c) ||
    (c == '-' && !isWhite next) ||
    (!flow && (c == '?' || c == ':') && !isWhiteZ next)

/-- Fetches the next token, with the block ends that come before it. -/
def fetchNext : LexM Unit := do
  if !(← get).started then
    fetchStreamStart
    return
  scanToNextToken
  staleKeys
  unrollIndent ((← get).mark.column)
  let l ← get
  let c := l.peekAt 0
  let next := l.peekAt 1
  let flow := l.flowLevel > 0
  let column0 := l.mark.column == 0
  if c == '\x00' then fetchStreamEnd
  else if column0 && c == '%' then fetchDirective
  else if column0 && c == '-' && next == '-' && l.peekAt 2 == '-' && isWhiteZ (l.peekAt 3) then
    fetchDocumentIndicator .documentStart
  else if column0 && c == '.' && next == '.' && l.peekAt 2 == '.' && isWhiteZ (l.peekAt 3) then
    fetchDocumentIndicator .documentEnd
  else if c == '[' then fetchFlowCollectionStart .flowSequenceStart
  else if c == '\x7b' then fetchFlowCollectionStart .flowMappingStart
  else if c == ']' then fetchFlowCollectionEnd .flowSequenceEnd
  else if c == '\x7d' then fetchFlowCollectionEnd .flowMappingEnd
  else if c == ',' then fetchFlowEntry
  else if c == '-' && isWhiteZ next then fetchBlockEntry
  else if c == '?' && (flow || isWhiteZ next) then fetchKey
  else if c == ':' && (flow || isWhiteZ next) then fetchValue
  else if c == '*' then fetchAnchor true
  else if c == '&' then fetchAnchor false
  else if c == '!' then fetchTag
  else if c == '|' && !flow then fetchBlockScalar true
  else if c == '>' && !flow then fetchBlockScalar false
  else if c == '\'' then fetchFlowScalar true
  else if c == '"' then fetchFlowScalar false
  else if startsPlain flow c next then fetchPlainScalar
  else
    fail (some ("while scanning for the next token", l.mark))
      "found character that cannot start any token"

/-- Fetches tokens until the head of the queue can no longer be preceded by a key. -/
def fetchMore : LexM Unit := do
  for _ in [0:(← budget) + 2] do
    let l ← get
    let need ← if l.queue.isEmpty then pure true else do
      staleKeys
      let l ← get
      pure (l.keys.any fun k => k.possible && k.tokenNumber == l.taken)
    if need then fetchNext else break

/-- The next token, fetching it if needed. -/
def peekToken : LexM Token := do
  if !(← get).ready then
    fetchMore
    modify fun l => { l with ready := true }
  match (← get).queue with
  | t :: _ => return t
  | [] => fail none "no more tokens"

def skipToken : LexM Unit :=
  modify fun l => { l with ready := false, taken := l.taken + 1, queue := l.queue.drop 1 }

/-- The characters a reader refuses: controls other than tab, line feed and carriage return, and
the non-characters `U+FFFE` and `U+FFFF`. -/
def isPrintable (c : Char) : Bool :=
  let n := c.toNat
  n == 0x09 || n == 0x0A || n == 0x0D || (0x20 ≤ n && n ≤ 0x7E) || n == 0x85 ||
    (0xA0 ≤ n && n ≤ 0xD7FF) || (0xE000 ≤ n && n ≤ 0xFFFD) || 0x10000 ≤ n

/-- The first character a reader refuses, with the byte offset where it stands. -/
def refusedCharacter (s : String) : Option SyntaxError :=
  let rec go (offset : Nat) : List Char → Option SyntaxError
    | [] => none
    | c :: r =>
      if isPrintable c then go (offset + c.utf8Size) r
      else some { problem := "control characters are not allowed", offset }
  go 0 s.toList

end ManifestLint.Yaml
