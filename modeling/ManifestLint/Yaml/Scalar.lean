import ManifestLint.Yaml.Value
import ManifestLint.Yaml.Token
import ManifestLint.Decimal.Read
import ManifestLint.Text.Escaped

/-! # Resolving scalars

A plain scalar without a tag stands for null when it is empty, `~`, or `null` in lower, title or
upper case; for a boolean when it is `true` or `false` in those cases; for an integer when it is
decimal digits with an optional sign, or `0x`, `0o` or `0b` digits; and for a double when it reads
as a decimal literal with a finite value or is one of `.inf`, `-.inf` and `.nan` in those cases.
Digits with a leading zero (`007`) are text. Anything else is text.

Integers must fit 64 bits, signed or not. Wider integers of up to 128 bits are refused with a
message naming them; still wider ones read as doubles.

The messages of refused values use the vocabulary of the decoder: what was found (an
`Unexpected`), then what was expected.
-/

namespace ManifestLint.Yaml

/-- What a decoder found where it expected something else, as messages name it. -/
inductive Unexpected
  | bool (b : Bool)
  | unsigned (n : Nat)
  | signed (n : Int)
  | float (bits : UInt64)
  | str (s : String)
  | unit
  | seq
  | map
  | other (text : String)
deriving DecidableEq, Repr

/-- A double written positionally with at least one decimal, or `NaN`, `inf`, `-inf`. -/
def floatWithPoint (bits : UInt64) : String :=
  let p := Decimal.Parts.ofBits bits
  if p.isSpecial then
    if p.fraction != 0 then "NaN" else if p.negative then "-inf" else "inf"
  else
    let body := match p.digits? with
      | some d => d.positional
      | none => "0"
    let body := if body.toList.contains '.' then body else body ++ ".0"
    (if p.negative then "-" else "") ++ body

/-- How a message names what was found. -/
def Unexpected.render : Unexpected → String
  | .bool b => "boolean `" ++ toString b ++ "`"
  | .unsigned n => "integer `" ++ toString n ++ "`"
  | .signed n => "integer `" ++ toString n ++ "`"
  | .float bits => "floating point `" ++ floatWithPoint bits ++ "`"
  | .str s => "string " ++ Text.quote s
  | .unit => "unit value"
  | .seq => "sequence"
  | .map => "map"
  | .other t => t

/-- The message for a value of the wrong type. -/
def invalidType (u : Unexpected) (expected : String) : String :=
  "invalid type: " ++ u.render ++ ", expected " ++ expected

/-- The message for a value of the right type that is not allowed. -/
def invalidValue (u : Unexpected) (expected : String) : String :=
  "invalid value: " ++ u.render ++ ", expected " ++ expected

/-- How messages name a value that was found. -/
def Value.unexpected : Value → Unexpected
  | .null => .unit
  | .bool b => .bool b
  | .number (.nat n) => .unsigned n
  | .number (.neg n) => .signed n
  | .number (.float bits) => .float bits
  | .string s => .str s
  | .sequence _ => .seq
  | .mapping _ => .map
  | .tagged _ _ => .other "tagged value"

/-- The message for a field that is not among a record's fields. -/
def unknownFieldMessage (field : String) (names : List String) : String :=
  let quoted := names.map fun n => "\x60" ++ n ++ "\x60"
  "unknown field \x60" ++ field ++ "\x60, " ++
    match quoted with
    | [] => "there are no fields"
    | [a] => "expected " ++ a
    | [a, b] => "expected " ++ a ++ " or " ++ b
    | qs => "expected one of " ++ ", ".intercalate qs

/-! ## Words -/

/-- The spellings of null. -/
def isNullWord (s : String) : Bool :=
  s == "null" || s == "Null" || s == "NULL" || s == "~"

/-- The spellings of the booleans. -/
def boolWord? (s : String) : Option Bool :=
  if s == "true" || s == "True" || s == "TRUE" then some true
  else if s == "false" || s == "False" || s == "FALSE" then some false
  else none

/-! ## Integers -/

/-- The value of a digit in a radix of at most 36. -/
def digitValue (radix : Nat) (c : Char) : Option Nat :=
  let v :=
    if c.isDigit then c.toNat - '0'.toNat
    else if 'a' ≤ c && c ≤ 'z' then c.toNat - 'a'.toNat + 10
    else if 'A' ≤ c && c ≤ 'Z' then c.toNat - 'A'.toNat + 10
    else 36
  if v < radix then some v else none

/-- Reads digits of a radix with an optional sign; a `-` only when `signed`. -/
def readRadix (radix : Nat) (signed : Bool) (cs : List Char) : Option Int :=
  let (negative, body) := match cs with
    | '+' :: r => (false, r)
    | '-' :: r => if signed then (true, r) else (false, cs)
    | r => (false, r)
  if body.isEmpty then none
  else
    (body.foldlM (fun acc c => (digitValue radix c).map (acc * radix + ·)) 0).map fun v =>
      if negative then -(v : Int) else v

/-- Digits with a leading zero and an optional sign, such as `007`: text, not a number. -/
def isZeroPadded (cs : List Char) : Bool :=
  let body := match cs with
    | '+' :: r | '-' :: r => r
    | r => r
  body.length > 1 && body.head? == some '0' && body.tail.all Char.isDigit

/-- The radix prefixes of integers. -/
def radixPrefixes : List (Char × Nat) :=
  [('x', 16), ('o', 8), ('b', 2)]

/-- Reads a non-negative integer below `bound`, with an optional `+` and radix prefix. -/
def readUnsigned? (cs : List Char) (bound : Nat) : Option Nat :=
  let unsigned := match cs with
    | '+' :: r => r
    | r => r
  let inRange (v : Int) : Option Nat := if 0 ≤ v && v < bound then some v.toNat else none
  let prefixed := radixPrefixes.findSome? fun (p, radix) =>
    match unsigned with
    | '0' :: q :: rest =>
      if q != p then none
      else if rest.head? == some '+' || rest.head? == some '-' then some none
      else (readRadix radix false rest).bind inRange |>.map some
    | _ => none
  match prefixed with
  | some r => r
  | none =>
    if unsigned.head? == some '+' || unsigned.head? == some '-' then none
    else if isZeroPadded cs then none
    else (readRadix 10 false unsigned).bind inRange

/-- Reads a signed integer in `[-bound, bound)`, with an optional radix prefix after `-`. -/
def readSigned? (cs : List Char) (bound : Nat) : Option Int :=
  let inRange (v : Int) : Option Int := if -(bound : Int) ≤ v && v < bound then some v else none
  let prefixed := radixPrefixes.findSome? fun (p, radix) =>
    match cs with
    | '-' :: '0' :: q :: rest =>
      if q != p then none else (readRadix radix true ('-' :: rest)).bind inRange
    | _ => none
  match prefixed with
  | some v => some v
  | none =>
    if isZeroPadded cs then none
    else (readRadix 10 true cs).bind inRange

/-- What an integer literal stands for: a number, or a refusal of an integer that is too wide. -/
def readInteger? (s : String) : Option (Except Unexpected Number) :=
  let cs := s.toList
  match readUnsigned? cs (Nat.pow 2 64) with
  | some n => some (.ok (.nat n))
  | none =>
    match readSigned? cs (Nat.pow 2 63) with
    | some i => some (.ok (Number.ofInt i))
    | none =>
      match readUnsigned? cs (Nat.pow 2 128) with
      | some n => some (.error (.other ("integer `" ++ toString n ++ "` as u128")))
      | none =>
        match readSigned? cs (Nat.pow 2 127) with
        | some i => some (.error (.other ("integer `" ++ toString i ++ "` as i128")))
        | none => none

/-! ## Doubles -/

/-- The bits of the positive NaN. -/
def nanBits : UInt64 := 0x7FF8000000000000

/-- Reads a YAML double: `.inf`, `-.inf`, `.nan` in three cases each, or a decimal literal with a
finite value and at most one leading `+`. -/
def readDouble? (s : String) : Option UInt64 :=
  let cs := s.toList
  let unsigned? := match cs with
    | '+' :: r => if r.head? == some '+' || r.head? == some '-' then none else some r
    | r => some r
  match unsigned? with
  | none => none
  | some unsigned =>
    let u := String.ofList unsigned
    if u == ".inf" || u == ".Inf" || u == ".INF" then some (1.0 / 0.0 : Float).toBits
    else if s == "-.inf" || s == "-.Inf" || s == "-.INF" then some (-(1.0 / 0.0) : Float).toBits
    else if s == ".nan" || s == ".NaN" || s == ".NAN" then some nanBits
    else match Decimal.readFloat? u with
      | some f => if f.isFinite then some f.toBits else none
      | none => none

/-! ## Resolution -/

/-- What a plain scalar without a tag stands for; a refusal for integers that are too wide. -/
def resolvePlain (s : String) : Except Unexpected Value :=
  if s.isEmpty || isNullWord s then .ok .null
  else match boolWord? s with
    | some b => .ok (.bool b)
    | none =>
      match readInteger? s with
      | some (.ok n) => .ok (.number n)
      | some (.error u) => .error u
      | none =>
        match (if isZeroPadded s.toList then none else readDouble? s) with
        | some bits => .ok (.number (.float bits))
        | none => .ok (.string s)

/-- The tags of the core schema. -/
def coreTag (name : String) : String :=
  "tag:yaml.org,2002:" ++ name

/-- What a scalar stands for as a value, given its tag. `tagged` says that a local tag has
already been taken off it. The core tags `bool`, `int`, `float` and `null` force a reading (and
refuse a text that does not have it); a local tag leaves a plain scalar to be resolved; any other
tag, and any quoted or block style, makes text. The message of a refusal expects `expected`. -/
def scalarValue (tag : Option String) (text : String) (style : ScalarStyle) (tagged : Bool)
    (expected : String) : Except String Value :=
  let plain (s : String) : Except String Value :=
    match resolvePlain s with
    | .ok v => .ok v
    | .error u => .error (invalidType u expected)
  match tag, tagged with
  | some t, false =>
    if t == coreTag "bool" then
      match boolWord? text with
      | some b => .ok (.bool b)
      | none => .error (invalidValue (.str text) "a boolean")
    else if t == coreTag "int" then
      match readInteger? text with
      | some (.ok n) => .ok (.number n)
      | some (.error u) => .error (invalidType u expected)
      | none => .error (invalidValue (.str text) "an integer")
    else if t == coreTag "float" then
      match readDouble? text with
      | some bits => .ok (.number (.float bits))
      | none => .error (invalidValue (.str text) "a float")
    else if t == coreTag "null" then
      if isNullWord text then .ok .null else .error (invalidValue (.str text) "null")
    else if t.startsWith "!" && style == .plain then plain text
    else .ok (.string text)
  | _, _ => if style == .plain then plain text else .ok (.string text)

/-- How a tag is shown: `!` and the tag without one leading `!`, unless that would leave nothing. -/
def showTag (t : String) : String :=
  match t.toList with
  | '!' :: rest@(_ :: _) => "!" ++ String.ofList rest
  | _ => "!" ++ t

/-- The local tag a node carries, as shown, unless a tag was already taken off it. A tag is local
when it starts with `!`; the tag is what follows that `!`, or `!` itself when nothing follows. -/
def localTag? (tag : Option String) (tagged : Bool) : Option String :=
  if tagged then none
  else match tag with
    | some t =>
      match t.toList with
      | '!' :: rest => some (showTag (if rest.isEmpty then t else String.ofList rest))
      | _ => none
    | none => none

end ManifestLint.Yaml
