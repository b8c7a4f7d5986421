import ManifestLint.Decimal.Read

/-! # Shortest decimal digits of a double

A finite non-zero double is `m · 2 ^ e`. The reals that round to it form an interval around it
whose ends lie halfway to its neighbours (closer on the lower side when `m` is the smallest
mantissa of its binade), and the ends belong to the interval exactly when `m` is even. Its shortest
digits are the fewest significant decimal digits that name a point of that interval, and among
those the point nearest the double, a tie going to the even digit string.

The search tries grids of one, two, … seventeen significant digits in exact natural-number
arithmetic: on each grid the candidates are the multiples between the interval's ends, and the
first grid with a candidate wins.

Two layouts of those digits are provided: the one of YAML numbers, which is positional with `.0`
below `10 ^ 16` and down to `10 ^ (-5)` and otherwise scientific (`1e30`, `1.5e-7`), and the
always positional one (`1000000`, `0.0000001`).
-/

namespace ManifestLint.Decimal

/-- Significant digits and a power of ten: the number `digits · 10 ^ exponent`. -/
structure Digits where
  digits : Nat
  exponent : Int
deriving DecidableEq, Repr

/-- The parts of a double's bits: sign, biased exponent and fraction. -/
structure Parts where
  negative : Bool
  biased : Nat
  fraction : Nat
deriving DecidableEq, Repr

/-- Splits the bits of a double. -/
def Parts.ofBits (bits : UInt64) : Parts :=
  let b := bits.toNat
  ⟨b / Nat.pow 2 63 == 1, (b / Nat.pow 2 52) % 2048, b % Nat.pow 2 52⟩

/-- Whether the bits are those of an infinity or a NaN. -/
def Parts.isSpecial (p : Parts) : Bool :=
  p.biased == 2047

/-- The exact quotient `num / den` of `x · 2 ^ p / 10 ^ k`, as a pair. -/
def ratio (x : Nat) (p k : Int) : Nat × Nat :=
  (x * Nat.pow 2 p.toNat * Nat.pow 10 (-k).toNat, Nat.pow 2 (-p).toNat * Nat.pow 10 k.toNat)

/-- `⌊log₁₀ (m · 2 ^ e)⌋` for a positive `m`. -/
def floorLog10 (m : Nat) (e : Int) : Int :=
  if e ≥ 0 then (digitCount (m * Nat.pow 2 e.toNat) : Int) - 1
  else (digitCount (m * Nat.pow 10 330 / Nat.pow 2 (-e).toNat) : Int) - 1 - 330

/-- The integer nearest to `num / den`; a half goes to the even one. -/
def roundHalfEven (num den : Nat) : Nat :=
  let q := num / den
  let r := num % den
  if 2 * r < den then q else if 2 * r > den then q + 1 else if q % 2 == 0 then q else q + 1

/-- Removes the trailing zeros of the digits, raising the exponent. -/
def Digits.trim (d : Digits) : Digits :=
  go 400 d
where
  go : Nat → Digits → Digits
    | 0, d => d
    | fuel + 1, d =>
      if d.digits != 0 && d.digits % 10 == 0 then go fuel ⟨d.digits / 10, d.exponent + 1⟩ else d

/-- The candidate on the grid of `10 ^ k`, if the interval holds a multiple of it. The value is
`4m · 2 ^ p` and the interval runs from `lo · 2 ^ p` to `hi · 2 ^ p`. -/
def onGrid (m lo hi : Nat) (p k : Int) (closed : Bool) : Option Nat :=
  let (vn, den) := ratio (4 * m) p k
  let (ln, _) := ratio lo p k
  let (hn, _) := ratio hi p k
  let least := if closed then (ln + den - 1) / den else ln / den + 1
  let most := if closed then hn / den else (hn - 1) / den
  if least ≤ most then some (min (max (roundHalfEven vn den) least) most) else none

/-- The shortest digits of the positive double `m · 2 ^ e`; `boundary` says that `m` is the least
mantissa of its binade, so that the lower neighbour is twice as close. -/
def shortest (m : Nat) (e : Int) (boundary : Bool) : Digits :=
  let p := e - 2
  let lo := 4 * m - (if boundary then 1 else 2)
  let hi := 4 * m + 2
  let top := floorLog10 m e
  let closed := m % 2 == 0
  let found := (List.range 17).findSome? fun (i : Nat) =>
    let k := top - (i : Int)
    (onGrid m lo hi p k closed).map fun d => Digits.trim ⟨d, k⟩
  match found with
  | some d => d
  | none => Digits.trim ⟨(onGrid m lo hi p (top - 17) true).getD 0, top - 17⟩

/-- The sign and shortest digits of a finite double, or nothing for zero. -/
def Parts.digits? (p : Parts) : Option Digits :=
  if p.biased == 0 && p.fraction == 0 then none
  else if p.biased == 0 then some (shortest p.fraction (-1074) false)
  else some (shortest (p.fraction + Nat.pow 2 52) ((p.biased : Int) - 1075)
    (p.fraction == 0 && p.biased > 1))

/-- `n` zeros. -/
def zeros (n : Nat) : String :=
  String.ofList (List.replicate n '0')

/-- The YAML layout of digits: positional with `.0` when the point falls within sixteen digits
and no more than five places after it, otherwise one digit, a point if more follow, and `e` with
the exponent. -/
def Digits.scientific (d : Digits) : String :=
  let ds := toString d.digits
  let len := ds.length
  let k := d.exponent
  let kk : Int := len + k
  if 0 ≤ k && kk ≤ 16 then ds ++ zeros k.toNat ++ ".0"
  else if 0 < kk && kk ≤ 16 then
    String.ofList (ds.toList.take kk.toNat) ++ "." ++ String.ofList (ds.toList.drop kk.toNat)
  else if -5 < kk && kk ≤ 0 then "0." ++ zeros (-kk).toNat ++ ds
  else if len == 1 then ds ++ "e" ++ toString (kk - 1)
  else
    String.ofList (ds.toList.take 1) ++ "." ++ String.ofList (ds.toList.drop 1) ++ "e" ++
      toString (kk - 1)

/-- The positional layout of digits, without a point for whole numbers. -/
def Digits.positional (d : Digits) : String :=
  let ds := toString d.digits
  let k := d.exponent
  let kk : Int := ds.length + k
  if 0 ≤ k then ds ++ zeros k.toNat
  else if 0 < kk then
    String.ofList (ds.toList.take kk.toNat) ++ "." ++ String.ofList (ds.toList.drop kk.toNat)
  else "0." ++ zeros (-kk).toNat ++ ds

theorem roundHalfEven_exact (q den : Nat) (h : 0 < den) : roundHalfEven (q * den) den = q := by
  unfold roundHalfEven
  simp [Nat.mul_div_cancel _ h, Nat.mul_mod_left, h]

end ManifestLint.Decimal
