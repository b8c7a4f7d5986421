/-! # Tables of character ranges

A table of closed ranges of code points, written as text (`41-5A,61-7A`) and looked up by binary
search. The ranges of a table are sorted and disjoint.
-/

namespace ManifestLint.Text

/-- Sorted, disjoint, closed ranges of code points. -/
structure RangeTable where
  ranges : Array (Nat × Nat)
deriving Repr, Inhabited

/-- The value of a run of hexadecimal digits. -/
def hexDigitsValue (cs : List Char) : Nat :=
  cs.foldl (fun acc c =>
    let d := if c.isDigit then c.toNat - '0'.toNat else c.toNat - 'A'.toNat + 10
    16 * acc + d) 0

/-- Reads one range `lo-hi`. -/
def readRange (s : String) : Nat × Nat :=
  match s.splitOn "-" with
  | [a, b] => (hexDigitsValue a.toList, hexDigitsValue b.toList)
  | _ => (1, 0)

namespace RangeTable

/-- Reads a table written as comma-separated ranges. -/
def ofString (s : String) : RangeTable :=
  ⟨((s.splitOn ",").map readRange).toArray⟩

/-- Reads tables written as `names:ranges` and divided by semicolons, the names divided by
commas. -/
def namedOfString (s : String) : List (List String × RangeTable) :=
  (s.splitOn ";").map fun entry =>
    match entry.splitOn ":" with
    | [names, ranges] => (names.splitOn ",", ofString ranges)
    | _ => ([], ⟨#[]⟩)

/-- Whether a code point lies in one of the ranges. -/
def contains (t : RangeTable) (n : Nat) : Bool :=
  go 0 t.ranges.size
where
  go (lo hi : Nat) : Bool :=
    if lo < hi then
      let mid := (lo + hi) / 2
      let (a, b) := t.ranges.getD mid (1, 0)
      if n < a then go lo mid
      else if b < n then go (mid + 1) hi
      else true
    else false
  termination_by hi - lo

end RangeTable

end ManifestLint.Text
