import ManifestLint.Text.Blank
import ManifestLint.Decimal.Read

/-! # CPU quantities

A CPU quantity is a decimal number with an optional unit. The unit `m` means thousandths of a
core; otherwise the number may be followed by one of the decimal units `k`, `M`, `G`, `T` or the
binary units `Ki`, `Mi`, `Gi`. The number ends at the first ASCII letter other than `e` and `E`.
The value in thousandths is rounded up, and must lie in the range of a signed 64-bit word.
-/

namespace ManifestLint.Cpu

open Decimal Text

/-- The factor of a unit, if the unit is known. -/
def unitFactor : String → Option Float
  | "" => some 1.0
  | "k" => some 1e3
  | "M" => some 1e6
  | "G" => some 1e9
  | "T" => some 1e12
  | "Ki" => some 1024.0
  | "Mi" => some (1024.0 * 1024.0)
  | "Gi" => some (1024.0 * 1024.0 * 1024.0)
  | _ => none

/-- Rounds up to a whole number of thousandths in the range of a signed 64-bit word. -/
def wholeMillis? (v : Float) : Option Int :=
  let c := v.ceil
  if c.isFinite && (-9223372036854775808.0 : Float) ≤ c && c < 9223372036854775808.0 then
    some c.toInt64.toInt
  else none

/-- Whether a character ends the number of a quantity. -/
def startsUnit (c : Char) : Bool :=
  c.isAlpha && c != 'e' && c != 'E'

/-- The thousandths of a core a quantity stands for. -/
def millis? (quantity : String) : Option Int :=
  let cs := (trimBlank quantity).toList
  if cs.getLast? == some 'm' then
    (readFloat? (String.ofList cs.dropLast)).bind wholeMillis?
  else
    let number := String.ofList (cs.takeWhile (!startsUnit ·))
    let unit := String.ofList (cs.dropWhile (!startsUnit ·))
    match unitFactor unit, readFloat? number with
    | some f, some v => wholeMillis? (v * f * 1000.0)
    | _, _ => none

end ManifestLint.Cpu
