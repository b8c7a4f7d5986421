import ManifestLint.Text.Blank

/-! # Sections of a manifest

A manifest holds several documents, divided by separator lines: lines that begin with three dashes
followed by nothing or by a blank. The lines of a text end at line feeds, a carriage return just
before a line feed belongs to the line ending, and a final line feed starts no further line.

A section is the text between two separators, from its first line that is neither blank nor a
comment on; the blank and comment lines before it are not part of it, and a section of such lines
alone is dropped. A section knows the number of its first line, counting from one, so that what is
said about its document can point into the manifest.
-/

namespace ManifestLint

/-- One document of a manifest: the number of its first line and its text, lines joined by line
feeds. -/
structure Section where
  line : Nat
  text : String
deriving DecidableEq, Repr

namespace Section

/-- A line whose carriage return before its line feed is dropped; `rev` is the line reversed. -/
def closeLine (rev : List Char) : List Char :=
  match rev with
  | '\r' :: r => r.reverse
  | _ => rev.reverse

/-- The lines of a text, `rev` holding the current line reversed. -/
def linesFrom : List Char → List Char → List (List Char)
  | [], rev => if rev.isEmpty then [] else [rev.reverse]
  | '\n' :: rest, rev => closeLine rev :: linesFrom rest []
  | c :: rest, rev => linesFrom rest (c :: rev)

/-- The lines of a text. -/
def lines (s : String) : List (List Char) :=
  linesFrom s.toList []

/-- Whether a line divides two documents: three dashes, then nothing or a blank. -/
def isSeparator : List Char → Bool
  | '-' :: '-' :: '-' :: rest =>
    match rest with
    | [] => true
    | c :: _ => Text.isBlank c
  | _ => false

/-- Whether a line, before a document starts, is blank or a comment. -/
def isFiller (l : List Char) : Bool :=
  match Text.dropBlank l with
  | [] => true
  | c :: _ => c == '#'

/-- Gathers the sections of numbered lines; `open?` is the section being read, its lines
reversed. -/
def gather : List (Nat × List Char) → Option (Nat × List (List Char)) → List Section
  | [], open? => close open?
  | (n, l) :: rest, open? =>
    if isSeparator l then close open? ++ gather rest none
    else
      match open? with
      | some (first, ls) => gather rest (some (first, l :: ls))
      | none => if isFiller l then gather rest none else gather rest (some (n, [l]))
where
  close : Option (Nat × List (List Char)) → List Section
    | none => []
    | some (first, ls) =>
      [⟨first, String.intercalate "\n" (ls.reverse.map String.ofList)⟩]

/-- The sections of a manifest, in order. -/
def ofText (s : String) : List Section :=
  gather ((lines s).zipIdx.map fun (l, i) => (i + 1, l)) none

end Section

end ManifestLint
