/-! # Marks and syntax errors

A mark is a place in a YAML text: the character index, the byte offset, the line and the column,
all counted from zero. A syntax error names a problem at a mark and, for most problems, the construct that was being
read when it arose, with that construct's own mark. A mark at the very start of the text is not
printed, and a construct's mark is printed only when it differs from the problem's.
-/

namespace ManifestLint.Yaml

/-- A place in a YAML text, counted from zero. -/
structure Mark where
  index : Nat := 0
  /-- The offset in bytes of the UTF-8 text. -/
  offset : Nat := 0
  line : Nat := 0
  column : Nat := 0
deriving DecidableEq, Repr, Inhabited

namespace Mark

/-- Whether a mark is the very start of the text. -/
def isStart (m : Mark) : Bool :=
  m.line == 0 && m.column == 0

/-- A mark as messages print it, counted from one. -/
def render (m : Mark) : String :=
  "line " ++ toString (m.line + 1) ++ " column " ++ toString (m.column + 1)

end Mark

/-- A problem found while reading the characters, tokens or events of a YAML text. -/
structure SyntaxError where
  problem : String
  problemMark : Mark := {}
  /-- Byte offset of a character the reader refused; zero for the other problems. -/
  offset : Nat := 0
  context : Option (String × Mark) := none
deriving DecidableEq, Repr

/-- The text of a syntax error: the problem and where it is, then what was being read. -/
def SyntaxError.render (e : SyntaxError) : String :=
  let place :=
    if !e.problemMark.isStart then " at " ++ e.problemMark.render
    else if e.offset != 0 then " at position " ++ toString e.offset
    else ""
  let during := match e.context with
    | none => ""
    | some (c, m) =>
      let shown := !m.isStart && (m.line != e.problemMark.line || m.column != e.problemMark.column)
      ", " ++ c ++ (if shown then " at " ++ m.render else "")
  e.problem ++ place ++ during

end ManifestLint.Yaml
