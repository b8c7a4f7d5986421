import ManifestLint.Pattern.Lower
import ManifestLint.Pattern.Utf8Ranges

/-! # The normal form of a term

Before a term is compiled to an automaton it is brought to a normal form, and the size of the
automaton is a function of the form. Sets of characters become literals (the UTF-8 bytes of one
character or more) or classes (of no character, which never match, or of two or more), with the
surrogates left out. Concatenations are flattened, lose their empty items and have their adjacent
literals joined; alternations are flattened, and become a class when all their branches are single
characters or all are classes, or lift out the longest run of items that every branch starts with
when every branch is a concatenation. A repetition of what only matches the empty text repeats at
most once, a repetition of exactly one is its body, and one of exactly zero is empty.

Forms also carry what the compiler asks of them: the fewest and the most bytes they match (none
for the fewest when they match nothing, none for the most when there is no bound or no match), and
whether every match starts at the start of the text, or ends at its end.
-/

namespace ManifestLint.Pattern

/-- The surrogate code points, which are not characters. -/
def surrogates : CharSet :=
  ⟨#[(0xD800, 0xDFFF)]⟩

/-- A term in normal form. -/
inductive Form
  | empty
  /-- The bytes of one character or more. -/
  | literal (bytes : List Nat)
  /-- A class of no character, or of two or more. -/
  | chars (s : CharSet)
  | look (l : Look)
  | repetition (f : Form) (min : Nat) (max : Option Nat) (greedy : Bool)
  | capture (f : Form)
  | concat (items : List Form)
  | alternation (branches : List Form)
deriving Repr, Inhabited

namespace Form

/-- The number of bytes of the encoding of a code point. -/
def encodedLength (n : Nat) : Nat :=
  (utf8Bytes n).length

mutual

/-- The fewest bytes a form matches, or none if it matches nothing. -/
def minLength : Form → Option Nat
  | .empty | .look _ => some 0
  | .literal bytes => some bytes.length
  | .chars s => s.ranges[0]?.map fun r => encodedLength r.1
  | .repetition f min _ _ => (minLength f).map (· * min)
  | .capture f => minLength f
  | .concat items => sumMinLength items
  | .alternation branches => leastMinLength branches

/-- The fewest bytes a concatenation of forms matches. -/
def sumMinLength : List Form → Option Nat
  | [] => some 0
  | f :: fs => do
    let a ← minLength f
    let b ← sumMinLength fs
    return a + b

/-- The fewest bytes one of some forms matches; none if one of them matches nothing. -/
def leastMinLength : List Form → Option Nat
  | [] => none
  | [f] => minLength f
  | f :: fs => do
    let a ← minLength f
    let b ← leastMinLength fs
    return min a b

end

mutual

/-- The most bytes a form matches, or none if there is no bound or it matches nothing. -/
def maxLength : Form → Option Nat
  | .empty | .look _ => some 0
  | .literal bytes => some bytes.length
  | .chars s => s.ranges.back?.map fun r => encodedLength r.2
  | .repetition f _ max _ => do
    let m ← max
    let a ← maxLength f
    return a * m
  | .capture f => maxLength f
  | .concat items => sumMaxLength items
  | .alternation branches => greatestMaxLength branches

/-- The most bytes a concatenation of forms matches. -/
def sumMaxLength : List Form → Option Nat
  | [] => some 0
  | f :: fs => do
    let a ← maxLength f
    let b ← sumMaxLength fs
    return a + b

/-- The most bytes one of some forms matches. -/
def greatestMaxLength : List Form → Option Nat
  | [] => none
  | [f] => maxLength f
  | f :: fs => do
    let a ← maxLength f
    let b ← greatestMaxLength fs
    return max a b

end

/-- Whether a form matches only the empty text. -/
def onlyEmpty (f : Form) : Bool :=
  f.maxLength == some 0

mutual

/-- Whether every match of a form starts at the start of the text. -/
def startsAnchored : Form → Bool
  | .look l => l == .start
  | .repetition f min _ _ => min > 0 && startsAnchored f
  | .capture f => startsAnchored f
  | .concat items => prefixAnchored items
  | .alternation branches => !branches.isEmpty && allStartAnchored branches
  | _ => false

/-- Whether a concatenation is anchored at the start by its items up to the first that may match
more than the empty text. -/
def prefixAnchored : List Form → Bool
  | [] => false
  | f :: fs => startsAnchored f || (onlyEmpty f && prefixAnchored fs)

/-- Whether every branch is anchored at the start. -/
def allStartAnchored : List Form → Bool
  | [] => true
  | f :: fs => startsAnchored f && allStartAnchored fs

end

mutual

/-- Whether every match of a form ends at the end of the text. -/
def endsAnchored : Form → Bool
  | .look l => l == .finish
  | .repetition f min _ _ => min > 0 && endsAnchored f
  | .capture f => endsAnchored f
  | .concat items => (suffixAnchored items).1
  | .alternation branches => !branches.isEmpty && allEndAnchored branches
  | _ => false

/-- Whether a concatenation is anchored at the end by its items from the last back to the first
that may match more than the empty text, and whether all its items match only the empty text. -/
def suffixAnchored : List Form → Bool × Bool
  | [] => (false, true)
  | f :: fs =>
    let (anchored, throughAll) := suffixAnchored fs
    (anchored || (throughAll && endsAnchored f), throughAll && onlyEmpty f)

/-- Whether every branch is anchored at the end. -/
def allEndAnchored : List Form → Bool
  | [] => true
  | f :: fs => endsAnchored f && allEndAnchored fs

end

mutual

/-- Whether two forms are the same. Two captures never are: every group has an index of its
own. -/
def same : Form → Form → Bool
  | .empty, .empty => true
  | .literal a, .literal b => a == b
  | .chars a, .chars b => a == b
  | .look a, .look b => a == b
  | .repetition f a b g, .repetition h c d k => a == c && b == d && g == k && same f h
  | .concat xs, .concat ys => sameAll xs ys
  | .alternation xs, .alternation ys => sameAll xs ys
  | _, _ => false

/-- Whether two lists of forms are the same, form by form. -/
def sameAll : List Form → List Form → Bool
  | [], [] => true
  | x :: xs, y :: ys => same x y && sameAll xs ys
  | _, _ => false

end

mutual

def nodes : Form → Nat
  | .repetition f _ _ _ | .capture f => nodes f + 1
  | .concat items | .alternation items => nodesAll items + 1
  | _ => 1

/-- The number of nodes of some forms. -/
def nodesAll : List Form → Nat
  | [] => 0
  | f :: fs => nodes f + nodesAll fs

end

/-- The form of a set of characters: a literal for one character, otherwise a class. -/
def ofSet (s : CharSet) : Form :=
  let s := s.diff surrogates
  match s.ranges.toList with
  | [(a, b)] => if a == b then .literal (utf8Bytes a) else .chars s
  | _ => .chars s

/-- The items of a concatenation being built, and the bytes of a literal still open. -/
abbrev Pieces := Array Form × Array Nat

/-- The items with the open literal closed. -/
def Pieces.close (p : Pieces) : Array Form :=
  if p.2.isEmpty then p.1 else p.1.push (.literal p.2.toList)

/-- Adds an item: a literal joins the open literal. -/
def Pieces.add (p : Pieces) : Form → Pieces
  | .literal bytes => (p.1, p.2 ++ bytes.toArray)
  | f => (p.close.push f, #[])

/-- A concatenation in normal form: nested concatenations are flattened, empty items dropped and
adjacent literals joined; no item is empty, and one item is itself. -/
def concatOf (items : List Form) : Form :=
  let p : Pieces := items.foldl (fun p f =>
      match f with
      | .empty => p
      | .concat inner => inner.foldl Pieces.add p
      | f => p.add f) (#[], #[])
  match p.close.toList with
  | [] => .empty
  | [f] => f
  | fs => .concat fs

/-- The code point of a literal of exactly one character. -/
def singleChar? (bytes : List Nat) : Option Nat :=
  match bytes with
  | [a] => if a < 0x80 then some a else none
  | [a, b] => if 0xC0 ≤ a && a < 0xE0 then some ((a - 0xC0) * 64 + (b - 0x80)) else none
  | [a, b, c] =>
    if 0xE0 ≤ a && a < 0xF0 then some ((a - 0xE0) * 4096 + (b - 0x80) * 64 + (c - 0x80))
    else none
  | [a, b, c, d] =>
    if 0xF0 ≤ a then
      some ((a - 0xF0) * 262144 + (b - 0x80) * 4096 + (c - 0x80) * 64 + (d - 0x80))
    else none
  | _ => none

/-- The characters of branches that are all literals of one character. -/
def singleChars? (branches : List Form) : Option (List Nat) :=
  branches.mapM fun
    | .literal bytes => singleChar? bytes
    | _ => none

/-- The union of branches that are all classes. -/
def classUnion? (branches : List Form) : Option CharSet :=
  branches.foldlM (fun acc f =>
    match f with
    | .chars s => some (acc.union s)
    | _ => none) {}

/-- The number of leading items two lists have the same. -/
def commonPrefixLength : List Form → List Form → Nat
  | x :: xs, y :: ys => if same x y then commonPrefixLength xs ys + 1 else 0
  | _, _ => 0

/-- The items of a branch that is a concatenation. -/
def concatItems? : Form → Option (List Form)
  | .concat items => some items
  | _ => none

/-- An alternation in normal form, with `fuel` for the prefixes it may still lift; every lift
leaves fewer nodes, so the number of nodes is enough fuel. -/
def alternationWith : Nat → List Form → Form
  | fuel, branches =>
    let flat := branches.flatMap fun
      | .alternation inner => inner
      | f => [f]
    match flat with
    | [] => .chars {}
    | [f] => f
    | first :: rest =>
      match singleChars? flat with
      | some cs => ofSet (CharSet.ofList (cs.map fun c => (c, c)))
      | none =>
        match classUnion? flat with
        | some s => ofSet s
        | none =>
          let lifted : Option Form := do
            let items ← concatItems? first
            let others ← rest.mapM concatItems?
            let n := others.foldl (fun n ys => min n (commonPrefixLength items ys)) items.length
            match n, fuel with
            | 0, _ | _, 0 => none
            | _, fuel + 1 =>
              let suffixes := (items :: others).map fun ys => concatOf (ys.drop n)
              return concatOf (items.take n ++ [alternationWith fuel suffixes])
          lifted.getD (.alternation flat)

/-- An alternation in normal form. -/
def alternationOf (branches : List Form) : Form :=
  alternationWith (nodesAll branches + 1) branches

/-- A repetition in normal form. -/
def repetitionOf (f : Form) (min : Nat) (max : Option Nat) (greedy : Bool) : Form :=
  let (min, max) := if onlyEmpty f then (Nat.min min 1, some (Nat.min (max.getD 1) 1))
    else (min, max)
  if min == 1 && max == some 1 then f
  else if min == 0 && max == some 0 then .empty
  else .repetition f min max greedy

mutual

/-- The normal form of a term. -/
def ofTerm : Term → Form
  | .empty => .empty
  | .chars s => ofSet s
  | .look l => .look l
  | .repetition t min max greedy => repetitionOf (ofTerm t) min max greedy
  | .capture t => .capture (ofTerm t)
  | .concat ts => concatOf (ofTerms ts)
  | .alternation ts => alternationOf (ofTerms ts)

def ofTerms : List Term → List Form
  | [] => []
  | t :: ts => ofTerm t :: ofTerms ts

end

end Form

end ManifestLint.Pattern
