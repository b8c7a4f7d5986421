/-! # Reading decimal numbers

The grammar of a decimal floating-point literal: an optional sign, then either one of the words
`inf`, `infinity` and `nan` in any case, or digits with an optional point and an optional exponent,
with at least one digit before or after the point. Nothing else is allowed, not even blanks or
underscores. A literal names a real number, which is rounded to the nearest double.
-/

namespace ManifestLint.Decimal

/-- A finite decimal: a sign, the digits as one natural number, and a power of ten. -/
structure Literal where
  negative : Bool
  mantissa : Nat
  exponent : Int
deriving DecidableEq, Repr

/-- What a floating-point literal denotes before rounding. -/
inductive Reading
  | finite (d : Literal)
  | infinity (negative : Bool)
  | nan
deriving DecidableEq, Repr

/-- The value of a run of decimal digits, read from the left onto `acc`. -/
def digitsValue (acc : Nat) : List Char → Nat
  | [] => acc
  | c :: r => digitsValue (10 * acc + (c.toNat - '0'.toNat)) r

/-- Splits off the longest prefix of ASCII digits. -/
def spanDigits (cs : List Char) : List Char × List Char :=
  (cs.takeWhile Char.isDigit, cs.dropWhile Char.isDigit)

/-- Reads the exponent part after `e` or `E`: a sign and at least one digit, and nothing after. -/
def readExponent (cs : List Char) : Option Int :=
  let (neg, rest) := match cs with
    | '+' :: r => (false, r)
    | '-' :: r => (true, r)
    | r => (false, r)
  let (ds, tail) := spanDigits rest
  if ds.isEmpty || !tail.isEmpty then none
  else
    let v : Int := digitsValue 0 ds
    some (if neg then -v else v)

/-- Reads an unsigned decimal with an optional point and exponent. -/
def readUnsigned (negative : Bool) (cs : List Char) : Option Literal :=
  let (whole, rest) := spanDigits cs
  let (frac, rest) := match rest with
    | '.' :: r => spanDigits r
    | r => ([], r)
  if whole.isEmpty && frac.isEmpty then none
  else
    let exp? : Option Int := match rest with
      | [] => some 0
      | 'e' :: r => readExponent r
      | 'E' :: r => readExponent r
      | _ => none
    exp?.map fun e =>
      { negative, mantissa := digitsValue 0 (whole ++ frac), exponent := e - frac.length }

/-- The lower-case form of an ASCII text, for the case-blind words. -/
def asciiLower (cs : List Char) : List Char :=
  cs.map Char.toLower

/-- Reads a floating-point literal, or refuses it. -/
def Reading.read? (s : String) : Option Reading :=
  let (negative, body) := match s.toList with
    | '+' :: r => (false, r)
    | '-' :: r => (true, r)
    | r => (false, r)
  let word := asciiLower body
  if word == "inf".toList || word == "infinity".toList then some (.infinity negative)
  else if word == "nan".toList then some .nan
  else (readUnsigned negative body).map .finite

/-- The number of decimal digits of a positive number. -/
def digitCount (n : Nat) : Nat :=
  (Nat.toDigits 10 n).length

/-- The double nearest to a finite decimal. Exponents far outside the range of doubles are
settled before any power of ten is formed: a value of at least `10 ^ 309` overflows and one below
`10 ^ (-330)` is closer to zero than to the least subnormal. -/
def Literal.toFloat (d : Literal) : Float :=
  let magnitude : Float :=
    if d.mantissa = 0 then 0.0
    else
      let top := d.exponent + digitCount d.mantissa
      if top > 310 then (1.0 : Float) / 0.0
      else if top < -330 then 0.0
      else if d.exponent < 0 then Float.ofScientific d.mantissa true d.exponent.natAbs
      else Float.ofScientific d.mantissa false d.exponent.toNat
  if d.negative then -magnitude else magnitude

/-- The double a reading denotes. -/
def Reading.toFloat : Reading → Float
  | .finite d => d.toFloat
  | .infinity negative => if negative then -((1.0 : Float) / 0.0) else (1.0 : Float) / 0.0
  | .nan => (0.0 : Float) / 0.0

/-- Reads a literal and rounds it to a double. -/
def readFloat? (s : String) : Option Float :=
  (Reading.read? s).map Reading.toFloat

end ManifestLint.Decimal
