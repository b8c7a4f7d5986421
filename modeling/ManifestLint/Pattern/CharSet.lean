import ManifestLint.Text.RangeTable
import ManifestLint.Text.CaseFold

/-! # Sets of characters

A set of characters is a sorted array of disjoint closed ranges of code points, no two of them
adjacent, so that each set has one form. Sets are combined by union, intersection, difference and
symmetric difference, complemented within the code points, and closed under simple case folding:
the closure adds to a set every character that folds to the same character as one of its members.
-/

namespace ManifestLint.Pattern

/-- The greatest code point. -/
def maxCodePoint : Nat := 0x10FFFF

/-- A set of characters as sorted, disjoint, non-adjacent closed ranges of code points. -/
structure CharSet where
  ranges : Array (Nat × Nat) := #[]
deriving DecidableEq, Repr, Inhabited

namespace CharSet

/-- Merges ranges sorted by their starts into the range `cur` before them, joining those that
overlap or touch. -/
def mergeFrom (cur : Nat × Nat) : List (Nat × Nat) → List (Nat × Nat)
  | [] => [cur]
  | (c, d) :: rest =>
    if c ≤ cur.2 + 1 then mergeFrom (cur.1, max cur.2 d) rest else cur :: mergeFrom (c, d) rest

/-- Merges ranges sorted by their starts, joining those that overlap or touch. -/
def mergeSorted : List (Nat × Nat) → List (Nat × Nat)
  | [] => []
  | r :: rest => mergeFrom r rest

/-- Inserts a range into ranges sorted by their starts, before those that start no earlier. -/
def insertByStart (r : Nat × Nat) : List (Nat × Nat) → List (Nat × Nat)
  | [] => [r]
  | s :: rest => if s.1 < r.1 then s :: insertByStart r rest else r :: s :: rest

/-- Ranges sorted by their starts, those with one start kept in their order. -/
def sortByStart (rs : List (Nat × Nat)) : List (Nat × Nat) :=
  rs.foldr insertByStart []

/-- The set of the code points in some of the ranges. -/
def ofList (rs : List (Nat × Nat)) : CharSet :=
  ⟨(mergeSorted (sortByStart (rs.filter fun r => r.1 ≤ r.2))).toArray⟩

def single (c : Char) : CharSet :=
  ⟨#[(c.toNat, c.toNat)]⟩

/-- The set of a table. -/
def ofTable (t : Text.RangeTable) : CharSet :=
  ofList t.ranges.toList

/-- Every code point. -/
def all : CharSet :=
  ⟨#[(0, maxCodePoint)]⟩

def union (a b : CharSet) : CharSet :=
  ofList (a.ranges.toList ++ b.ranges.toList)

def complement (a : CharSet) : CharSet :=
  let (gaps, next) := a.ranges.foldl (fun (acc : List (Nat × Nat) × Nat) r =>
      let (gs, from_) := acc
      ((if from_ < r.1 then (from_, r.1 - 1) :: gs else gs), r.2 + 1))
    ([], 0)
  let gaps := if next ≤ maxCodePoint then (next, maxCodePoint) :: gaps else gaps
  ⟨gaps.reverse.toArray⟩

def inter (a b : CharSet) : CharSet :=
  (union a.complement b.complement).complement

/-- The code points of the first set that are not in the second. -/
def diff (a b : CharSet) : CharSet :=
  inter a b.complement

/-- The code points in exactly one of two sets. -/
def symmDiff (a b : CharSet) : CharSet :=
  diff (union a b) (inter a b)

/-- Whether a code point is in a set. -/
def contains (a : CharSet) (n : Nat) : Bool :=
  go a.ranges.size 0 a.ranges.size
where
  /-- Binary search among the ranges from `lo` to before `hi`. Each step leaves fewer ranges to
  search, so `steps`, the number of ranges at the start, is never the bound that stops it. -/
  go : Nat → Nat → Nat → Bool
    | 0, _, _ => false
    | steps + 1, lo, hi =>
      if lo < hi then
        let mid := (lo + hi) / 2
        let (x, y) := a.ranges.getD mid (1, 0)
        if n < x then go steps lo mid
        else if y < n then go steps (mid + 1) hi
        else true
      else false

/-- Whether a set holds only ASCII characters. -/
def isAscii (a : CharSet) : Bool :=
  a.ranges.all (·.2 ≤ 0x7F)

/-- The closure of a set under simple case folding. -/
def caseFold (a : CharSet) : CharSet :=
  let added := Text.caseOrbits.filter (·.any a.contains)
  union a (ofList (added.flatten.map fun n => (n, n)))

/-- The closure of a set under ASCII case folding, which pairs `a`–`z` with `A`–`Z` only. -/
def asciiCaseFold (a : CharSet) : CharSet :=
  let letters := (List.range 26).filterMap fun i =>
    if a.contains (0x61 + i) || a.contains (0x41 + i) then some i else none
  union a (ofList (letters.flatMap fun i => [(0x61 + i, 0x61 + i), (0x41 + i, 0x41 + i)]))

theorem contains_single_self (c : Char) : (single c).contains c.toNat = true := by
  simp [single, contains, contains.go]

end CharSet

end ManifestLint.Pattern
