import ManifestLint.Yaml.Scalar

/-! # Writing values as YAML

A value is written as one YAML document in block style, indented by two spaces: a sequence as
lines `- item`, a mapping as lines `key: value`, with a sequence under a mapping key not indented
further. Empty collections are written `[]` and `{}`. A key that is a non-empty collection, or a
scalar that spans lines or is longer than 128 bytes, is written after `? ` with its value after `: `
on the next line. A tag is written before its node.

A scalar is written plain when it can be read back as the same text: strings that would read as
null, a boolean or a number, or as digits with a leading zero, are single-quoted. A text is
single-quoted where plain writing is refused, and double-quoted with escapes where single quotes are
refused too; text with a line feed is written as a literal block where a block may stand. Lines are
never folded.
-/

namespace ManifestLint.Yaml

/-- The style a scalar asks for before the printer checks what its text allows. -/
inductive Requested
  | any
  | plain
  | singleQuoted
  | literal
deriving DecidableEq, Repr

/-- The style a scalar is written in. -/
inductive Written
  | plain
  | singleQuoted
  | doubleQuoted
  | literal
deriving DecidableEq, Repr

/-- Whether a character is a line break. -/
def isLineBreak (c : Char) : Bool :=
  c == '\r' || c == '\n' || c == '\x85' || c == '\u2028' || c == '\u2029'

/-- Whether a character is a blank, a line break, or the end of the text (`none`). -/
def isBlankOrEnd : Option Char → Bool
  | none => true
  | some c => c == ' ' || c == '\t' || isLineBreak c

/-- Whether a character may be written as it is in a YAML document: the line feed, printable
ASCII, the characters of the basic plane above `U+009F` except surrogates, the byte order mark,
`U+FFFE` and `U+FFFF`, and the characters beyond the basic plane. -/
def isWritable (c : Char) : Bool :=
  let n := c.toNat
  n == 0x0A || (0x20 ≤ n && n ≤ 0x7E) || (0xA0 ≤ n && n ≤ 0xD7FF) ||
    (0xE000 ≤ n && n ≤ 0xFFFD && n != 0xFEFF) || 0x10000 ≤ n

/-- What the text of a scalar allows. -/
structure Allowed where
  multiline : Bool
  flowPlain : Bool
  blockPlain : Bool
  singleQuoted : Bool
  block : Bool
deriving DecidableEq, Repr

/-- Flags gathered over the characters of a scalar. -/
structure ScalarScan where
  blockIndicators : Bool := false
  flowIndicators : Bool := false
  lineBreaks : Bool := false
  special : Bool := false
  leadingSpace : Bool := false
  leadingBreak : Bool := false
  trailingSpace : Bool := false
  trailingBreak : Bool := false
  breakSpace : Bool := false
  spaceBreak : Bool := false
  previousSpace : Bool := false
  previousBreak : Bool := false

/-- Scans the characters of a scalar; `first` marks the first character and `preceded` says that
the character before was blank. -/
def scanScalar : List Char → Bool → Bool → ScalarScan → ScalarScan
  | [], _, _, s => s
  | c :: rest, first, preceded, s =>
    let followed := isBlankOrEnd rest.head?
    let s :=
      if first then
        let s := if "#,[]{}&*!|>'\"%@".toList.contains c || c == '\x60' then
            { s with flowIndicators := true, blockIndicators := true }
          else s
        let s := if c == '?' || c == ':' then
            { s with flowIndicators := true,
                     blockIndicators := s.blockIndicators || followed }
          else s
        if c == '-' && followed then { s with flowIndicators := true, blockIndicators := true }
        else s
      else
        let s := if ",?[]{}".toList.contains c then { s with flowIndicators := true } else s
        let s := if c == ':' then
            { s with flowIndicators := true, blockIndicators := s.blockIndicators || followed }
          else s
        if c == '#' && preceded then { s with flowIndicators := true, blockIndicators := true }
        else s
    let s := if !isWritable c then { s with special := true } else s
    let s := if isLineBreak c then { s with lineBreaks := true } else s
    let s :=
      if c == ' ' then
        { s with leadingSpace := s.leadingSpace || first
                 trailingSpace := s.trailingSpace || rest.isEmpty
                 breakSpace := s.breakSpace || s.previousBreak
                 previousSpace := true, previousBreak := false }
      else if isLineBreak c then
        { s with leadingBreak := s.leadingBreak || first
                 trailingBreak := s.trailingBreak || rest.isEmpty
                 spaceBreak := s.spaceBreak || s.previousSpace
                 previousSpace := false, previousBreak := true }
      else { s with previousSpace := false, previousBreak := false }
    scanScalar rest false (isBlankOrEnd (some c)) s

/-- What the text of a scalar allows. -/
def analyze (text : String) : Allowed :=
  let cs := text.toList
  if cs.isEmpty then ⟨false, false, true, true, false⟩
  else
    let marker := cs.take 3 == ['-', '-', '-'] || cs.take 3 == ['.', '.', '.']
    let s := scanScalar cs true true
      { blockIndicators := marker, flowIndicators := marker }
    let edges := s.leadingSpace || s.leadingBreak || s.trailingSpace || s.trailingBreak
    let mixed := s.spaceBreak || s.special
    { multiline := s.lineBreaks
      flowPlain := !(edges || s.breakSpace || mixed || s.lineBreaks || s.flowIndicators)
      blockPlain := !(edges || s.breakSpace || mixed || s.lineBreaks || s.blockIndicators)
      singleQuoted := !(s.breakSpace || mixed)
      block := !(s.trailingSpace || mixed) }

/-- The handle and suffix a tag is written with: the primary handle `!` when the tag is longer
than it, else the whole tag verbatim. -/
def tagParts (tag : String) : Option String × String :=
  match tag.toList with
  | '!' :: c :: rest => (some "!", String.ofList (c :: rest))
  | _ => (none, tag)

/-- Whether a character of a tag is written as it is; others are written as `%` and the
upper-case hexadecimal of each of their bytes. -/
def isTagChar (c : Char) : Bool :=
  c.isAlphanum || c == '-' || ";/?:@&=+$,_.~*'()[]".toList.contains c

/-- Upper-case hexadecimal of a byte, two digits. -/
def hexByte (b : UInt8) : String :=
  let d (n : Nat) : Char := if n < 10 then Char.ofNat (48 + n) else Char.ofNat (55 + n)
  String.ofList [d (b.toNat / 16), d (b.toNat % 16)]

/-- The text of a tag suffix. -/
def tagContent (suffix : String) : String :=
  String.join (suffix.toList.map fun c =>
    if isTagChar c then String.singleton c
    else String.join ((String.singleton c).toUTF8.toList.map fun b => "%" ++ hexByte b))

/-- Where a node stands. -/
structure Place where
  mapping : Bool := false
  simpleKey : Bool := false

/-- The state of the printer: the text so far, the column, whether the last thing written was
blank or indentation, and the current indentation. -/
structure Printer where
  out : String := ""
  column : Nat := 0
  whitespace : Bool := true
  indention : Bool := true
  indent : Int := -1

/-- Printing a document. -/
abbrev PrintM := StateM Printer

namespace Printer

/-- Writes one character on the current line. -/
def put (c : Char) : PrintM Unit :=
  modify fun p => { p with out := p.out.push c, column := p.column + 1 }

/-- Writes a text on the current line. -/
def putText (s : String) : PrintM Unit :=
  modify fun p => { p with out := p.out ++ s, column := p.column + s.length }

def newLine : PrintM Unit :=
  modify fun p => { p with out := p.out.push '\n', column := 0 }

/-- Writes a line break of the text: a line feed ends the line, another break is copied. -/
def putBreak (c : Char) : PrintM Unit :=
  if c == '\n' then newLine
  else modify fun p => { p with out := p.out.push c, column := 0 }

/-- Moves to the current indentation, on a new line unless the line holds only indentation up
to it. -/
def writeIndent : PrintM Unit := do
  let p ← get
  let ind := p.indent.toNat
  if !p.indention || p.column > ind || (p.column == ind && !p.whitespace) then newLine
  let p ← get
  putText (String.ofList (List.replicate (ind - p.column) ' '))
  modify fun p => { p with whitespace := true, indention := true }

/-- Writes an indicator, after a space if `space` asks for one and none precedes. -/
def indicator (s : String) (space blank indention : Bool) : PrintM Unit := do
  if space && !(← get).whitespace then put ' '
  putText s
  modify fun p => { p with whitespace := blank, indention := p.indention && indention }

/-- Raises the indentation for a nested node and returns the one to restore: a flow node or a
scalar starts at two at the root, a block collection at zero, and a sequence under a mapping key
is not indented further. -/
def increaseIndent (flow indentless : Bool) : PrintM Int := do
  let p ← get
  let next :=
    if p.indent < 0 then (if flow then 2 else 0)
    else if indentless then p.indent else p.indent + 2
  set { p with indent := next }
  return p.indent

/-- Restores an indentation. -/
def restoreIndent (i : Int) : PrintM Unit :=
  modify fun p => { p with indent := i }

/-- Writes the tag of a node. -/
def writeTag : Option String → PrintM Unit
  | none => pure ()
  | some tag =>
    match tagParts tag with
    | (some handle, suffix) => do
      if !(← get).whitespace then put ' '
      putText handle
      putText (tagContent suffix)
      modify fun p => { p with whitespace := false, indention := false }
    | (none, suffix) => do
      indicator "!<" true false false
      putText (tagContent suffix)
      modify fun p => { p with whitespace := false, indention := false }
      indicator ">" false false false

/-- Writes a plain scalar. -/
def writePlain (text : String) : PrintM Unit := do
  if !(← get).whitespace && !text.isEmpty then put ' '
  putText text
  modify fun p => { p with whitespace := false, indention := false }

/-- Writes a scalar between single quotes, a quote inside written twice. -/
def writeSingleQuoted (text : String) : PrintM Unit := do
  indicator "'" true false false
  let mut breaks := false
  for c in text.toList do
    if isLineBreak c then
      if !breaks && c == '\n' then newLine
      putBreak c
      modify fun p => { p with indention := true }
      breaks := true
    else
      if breaks then writeIndent
      if c == '\'' then put '\''
      put c
      modify fun p => { p with indention := false }
      breaks := false
  if breaks then writeIndent
  indicator "'" false false false
  modify fun p => { p with whitespace := false, indention := false }

/-- Upper-case hexadecimal of a code point in `width` digits. -/
def hexDigits (n width : Nat) : String :=
  String.ofList ((List.range width).reverse.map fun k =>
    let d := n / Nat.pow 16 k % 16
    if d < 10 then Char.ofNat (48 + d) else Char.ofNat (55 + d))

/-- The escape of a character in a double-quoted scalar. -/
def escape (c : Char) : String :=
  "\\" ++
    match c with
    | '\x00' => "0"
    | '\x07' => "a"
    | '\x08' => "b"
    | '\t' => "t"
    | '\n' => "n"
    | '\x0b' => "v"
    | '\x0c' => "f"
    | '\r' => "r"
    | '\x1b' => "e"
    | '"' => "\""
    | '\\' => "\\"
    | '\x85' => "N"
    | '\xa0' => "_"
    | '\u2028' => "L"
    | '\u2029' => "P"
    | _ =>
      let n := c.toNat
      if n ≤ 0xFF then "x" ++ hexDigits n 2
      else if n ≤ 0xFFFF then "u" ++ hexDigits n 4
      else "U" ++ hexDigits n 8

/-- Writes a scalar between double quotes, escaping what cannot be written as it is. -/
def writeDoubleQuoted (text : String) : PrintM Unit := do
  indicator "\"" true false false
  for c in text.toList do
    if !isWritable c || c == '\uFEFF' || isLineBreak c || c == '"' || c == '\\' then
      putText (escape c)
    else put c
  indicator "\"" false false false
  modify fun p => { p with whitespace := false, indention := false }

/-- The indentation and chomping indicators of a literal block. -/
def blockHints (text : String) : PrintM Unit := do
  let cs := text.toList
  match cs.head? with
  | some c => if c == ' ' || isLineBreak c then indicator "2" false false false
  | none => pure ()
  match cs.reverse with
  | [] => indicator "-" false false false
  | last :: before =>
    if !isLineBreak last then indicator "-" false false false
    else
      match before with
      | [] => indicator "+" false false false
      | c :: _ => if isLineBreak c then indicator "+" false false false

/-- Writes a literal block scalar. -/
def writeLiteral (text : String) : PrintM Unit := do
  indicator "|" true false false
  blockHints text
  newLine
  modify fun p => { p with indention := true, whitespace := true }
  let mut breaks := true
  for c in text.toList do
    if isLineBreak c then
      putBreak c
      modify fun p => { p with indention := true }
      breaks := true
    else
      if breaks then writeIndent
      put c
      modify fun p => { p with indention := false }
      breaks := false

/-- The style a scalar is written in, from the style it asks for, what its text allows, where it
stands and whether it carries a tag. -/
def selectStyle (requested : Requested) (a : Allowed) (place : Place) (empty : Bool) :
    Written :=
  let s : Written := match requested with
    | .any | .plain => .plain
    | .singleQuoted => .singleQuoted
    | .literal => .literal
  let s := if place.simpleKey && a.multiline then .doubleQuoted else s
  let s := if s == .plain && (!a.blockPlain || (empty && place.simpleKey)) then .singleQuoted
    else s
  let s := if s == .singleQuoted && !a.singleQuoted then .doubleQuoted else s
  if s == .literal && (!a.block || place.simpleKey) then .doubleQuoted else s

/-- Writes a scalar node. -/
def scalar (tag : Option String) (text : String) (requested : Requested) (place : Place) :
    PrintM Unit := do
  let style := selectStyle requested (analyze text) place text.isEmpty
  writeTag tag
  let saved ← increaseIndent true false
  match style with
  | .plain => writePlain text
  | .singleQuoted => writeSingleQuoted text
  | .doubleQuoted => writeDoubleQuoted text
  | .literal => writeLiteral text
  restoreIndent saved

end Printer

/-- How a string asks to be written: as a literal block when it has a line feed, single-quoted
when plain writing would read back as something else (an integer too large for a value among
them), and in any style otherwise. -/
def requestedFor (s : String) : Requested :=
  if s.toList.contains '\n' then .literal
  else
    match resolvePlain s with
    | .ok (.string _) => if isZeroPadded s.toList then .singleQuoted else .any
    | .ok _ => .singleQuoted
    | .error _ => .singleQuoted

/-- The text and requested style of a scalar value. -/
def scalarText? : Value → Option (String × Requested)
  | .null => some ("null", .plain)
  | .bool b => some (toString b, .plain)
  | .number n => some (n.render, .plain)
  | .string s => some (s, requestedFor s)
  | _ => none

/-- The tag of a value and the value under it. -/
def splitTag : Value → Option String × Value
  | .tagged t v => (some t, v)
  | v => (none, v)

/-- Whether a key may be written as a simple key: a scalar on one line of at most 128 bytes with
its tag, or an empty collection. -/
def isSimpleKey (k : Value) : Bool :=
  let (tag, v) := splitTag k
  let tagBytes := match tag with
    | some t => t.utf8ByteSize
    | none => 0
  match scalarText? v with
  | some (text, _) => !(analyze text).multiline && tagBytes + text.utf8ByteSize ≤ 128
  | none =>
    match v with
    | .sequence [] | .mapping [] => tagBytes ≤ 128
    | _ => false

mutual

/-- Writes a node. -/
def printNode : Value → Place → PrintM Unit
  | .tagged t v, place => printBare (some t) v place
  | v, place => printBare none v place
termination_by v => (sizeOf v, 1)

/-- Writes a node with the tag already taken off. -/
def printBare (tag : Option String) : Value → Place → PrintM Unit
  | .sequence items, place => do
    Printer.writeTag tag
    if items.isEmpty then
      Printer.indicator "[" true true false
      Printer.indicator "]" false false false
    else
      let saved ← Printer.increaseIndent false (place.mapping && !(← get).indention)
      printItems items
      Printer.restoreIndent saved
  | .mapping entries, _ => do
    Printer.writeTag tag
    if entries.isEmpty then
      Printer.indicator "\x7b" true true false
      Printer.indicator "\x7d" false false false
    else
      let saved ← Printer.increaseIndent false false
      printEntries entries
      Printer.restoreIndent saved
  | .tagged _ v, place => printBare tag v place
  | v, place =>
    match scalarText? v with
    | some (text, requested) => Printer.scalar tag text requested place
    | none => pure ()
termination_by v => (sizeOf v, 0)

/-- Writes the items of a block sequence. -/
def printItems : List Value → PrintM Unit
  | [] => pure ()
  | v :: rest => do
    Printer.writeIndent
    Printer.indicator "-" true false true
    printNode v {}
    printItems rest
termination_by xs => (sizeOf xs, 2)

/-- Writes the entries of a block mapping. -/
def printEntries : List (Value × Value) → PrintM Unit
  | [] => pure ()
  | (k, v) :: rest => do
    Printer.writeIndent
    if isSimpleKey k then
      printNode k { mapping := true, simpleKey := true }
      Printer.indicator ":" false false false
    else
      Printer.indicator "?" true false true
      printNode k { mapping := true }
      Printer.writeIndent
      Printer.indicator ":" true false true
    printNode v { mapping := true }
    printEntries rest
termination_by es => (sizeOf es, 2)

end

mutual

/-- Whether a value holds a one-entry mapping, not directly under a tag, whose key is itself a
one-entry mapping or a tagged value. The writer holds back the start of a one-entry mapping, which
might stand for a tagged value, until its key shows which it is; such a key takes the held start
for its own, the collections no longer match, and the value cannot be written. -/
def Value.unwritable : Value → Bool
  | .tagged _ v => taggedContentUnwritable v
  | .sequence items => itemsUnwritable items
  | .mapping [(k, v)] =>
    (match k with
      | .mapping [_] | .tagged _ _ => true
      | _ => false) || Value.unwritable k || Value.unwritable v
  | .mapping entries => entriesUnwritable entries
  | _ => false

/-- Whether the content of a tagged value cannot be written: its own key may take any form. -/
def taggedContentUnwritable : Value → Bool
  | .mapping entries => entriesUnwritable entries
  | v => Value.unwritable v

/-- Whether some item cannot be written. -/
def itemsUnwritable : List Value → Bool
  | [] => false
  | v :: rest => Value.unwritable v || itemsUnwritable rest

/-- Whether some key or value of the entries cannot be written. -/
def entriesUnwritable : List (Value × Value) → Bool
  | [] => false
  | (k, v) :: rest => Value.unwritable k || Value.unwritable v || entriesUnwritable rest

end

/-- A value written as a YAML document, ending with a line break, if it can be written. The
document is left implicitly open after a block scalar that keeps its final line breaks. -/
def Value.toYaml? (v : Value) : Option String :=
  if v.unwritable then none
  else
    let run : PrintM Unit := do
      printNode v {}
      Printer.writeIndent
    some (run.run {}).2.out

end ManifestLint.Yaml
