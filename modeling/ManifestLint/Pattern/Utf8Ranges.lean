/-! # Code points as sequences of byte ranges

An automaton that reads UTF-8 reads a range of code points as a few sequences of byte ranges. Each
sequence has one range for each byte of the encoding, and the encodings a sequence accepts are those
of a run of consecutive code points; together the sequences of a range cover exactly its code
points, in order.

A range is cut first around the surrogates, which are not characters, then where the length of the
encoding changes, and then at multiples of 64, 4096 and 262144 until the bytes after the first one
that differ between its two ends cover every continuation byte. What remains is read byte by byte
between the encodings of its two ends.
-/

namespace ManifestLint.Pattern

/-- The bytes of the UTF-8 encoding of a code point. -/
def utf8Bytes (n : Nat) : List Nat :=
  if n < 0x80 then [n]
  else if n < 0x800 then [0xC0 + n / 64, 0x80 + n % 64]
  else if n < 0x10000 then [0xE0 + n / 4096, 0x80 + n / 64 % 64, 0x80 + n % 64]
  else [0xF0 + n / 262144, 0x80 + n / 4096 % 64, 0x80 + n / 64 % 64, 0x80 + n % 64]

/-- The greatest code point whose encoding has `k` bytes, for `k` of one, two or three. -/
def utf8Limit (k : Nat) : Nat :=
  if k = 1 then 0x7F else if k = 2 then 0x7FF else 0xFFFF

/-- What one step does with a range of code points: cuts it in two, drops it when it is empty, or
gives its sequence. -/
inductive RangeStep
  | cut (first second : Nat × Nat)
  | drop
  | emit (seq : List (Nat × Nat))
deriving Repr

/-- Where a range whose ends have encodings of one length is cut so that a continuation byte that
varies covers all continuation bytes: below the first multiple of the block size above its start,
or below the last one at or under its end. -/
def alignCut (s e : Nat) : Option ((Nat × Nat) × (Nat × Nat)) :=
  [64, 4096, 262144].findSome? fun k =>
    if s / k == e / k then none
    else if s % k != 0 then some ((s, s / k * k + k - 1), (s / k * k + k, e))
    else if e % k != k - 1 then some ((s, e / k * k - 1), (e / k * k, e))
    else none

/-- One step on the range from `s` to `e`. -/
def rangeStep (s e : Nat) : RangeStep :=
  if s < 0xE000 && e > 0xD7FF then .cut (s, 0xD7FF) (0xE000, e)
  else if e < s then .drop
  else
    match [1, 2, 3].find? (fun k => s ≤ utf8Limit k && utf8Limit k < e) with
    | some k => .cut (s, utf8Limit k) (utf8Limit k + 1, e)
    | none =>
      if e ≤ 0x7F then .emit [(s, e)]
      else
        match alignCut s e with
        | some (a, b) => .cut a b
        | none => .emit ((utf8Bytes s).zip (utf8Bytes e))

/-- The sequences of byte ranges of the ranges on a stack, the first range first; the first half
of a cut range is worked on before the second. A range takes far fewer than 256 steps. -/
def sequencesOf : Nat → List (Nat × Nat) → List (List (Nat × Nat)) → List (List (Nat × Nat))
  | 0, _, acc => acc.reverse
  | _, [], acc => acc.reverse
  | fuel + 1, (s, e) :: rest, acc =>
    match rangeStep s e with
    | .cut a b => sequencesOf fuel (a :: b :: rest) acc
    | .drop => sequencesOf fuel rest acc
    | .emit seq => sequencesOf fuel rest (seq :: acc)

/-- The sequences of byte ranges of the code points from `s` to `e`, in order. -/
def utf8Sequences (s e : Nat) : List (List (Nat × Nat)) :=
  sequencesOf 256 [(s, e)] []

end ManifestLint.Pattern
