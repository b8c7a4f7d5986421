import ManifestLint.Decimal.Shortest

/-! # YAML values

A YAML value is null, a boolean, a number, a string, a sequence, a mapping or a tagged value.
Mappings keep their entries in the order they were written. Numbers are non-negative integers
below `2 ^ 64`, negative integers of 64 bits, or doubles, kept by their bits so that values can be
compared structurally.

Reading a value out of a document looks through tags: a tagged mapping still answers a key, and a
tagged string still reads as a string.
-/

namespace ManifestLint.Yaml

/-- A YAML number. -/
inductive Number
  | nat (n : Nat)
  | neg (n : Int)
  | float (bits : UInt64)
deriving DecidableEq, Repr, Inhabited

namespace Number

/-- A double as a number. -/
def ofFloat (f : Float) : Number :=
  .float f.toBits

/-- A 64-bit integer as a number; zero and above count as non-negative. -/
def ofInt (i : Int) : Number :=
  if i < 0 then .neg i else .nat i.toNat

/-- The integer of a number that fits a signed 64-bit word. -/
def asInt? : Number → Option Int
  | .nat n => if n < Nat.pow 2 63 then some n else none
  | .neg n => some n
  | .float _ => none

/-- How a number is written: integers in decimal, doubles by their shortest digits, and `.nan`,
`.inf` and `-.inf` for the special doubles. -/
def render : Number → String
  | .nat n => toString n
  | .neg n => toString n
  | .float bits =>
    let p := Decimal.Parts.ofBits bits
    if p.isSpecial then
      if p.fraction != 0 then ".nan" else if p.negative then "-.inf" else ".inf"
    else
      (if p.negative then "-" else "") ++
        match p.digits? with
        | some d => d.scientific
        | none => "0.0"

/-- Equality of numbers as keys: integers by value, doubles by value with every NaN equal, and an
integer never equal to a double. -/
def same : Number → Number → Bool
  | .nat a, .nat b => a == b
  | .neg a, .neg b => a == b
  | .float a, .float b =>
    let x := Float.ofBits a
    let y := Float.ofBits b
    (x.isNaN && y.isNaN) || x == y
  | _, _ => false

end Number

/-- A YAML value. -/
inductive Value
  | null
  | bool (b : Bool)
  | number (n : Number)
  | string (s : String)
  | sequence (items : List Value)
  | mapping (entries : List (Value × Value))
  | tagged (tag : String) (value : Value)
deriving Repr, Inhabited

namespace Value

/-- The value under its tags. -/
def untag : Value → Value
  | .tagged _ v => untag v
  | v => v

/-- Whether a value is a string equal to `key`, tags not looked through. -/
def isKey (key : String) : Value → Bool
  | .string s => s == key
  | _ => false

theorem eq_string_of_isKey {key : String} {v : Value} (h : v.isKey key = true) :
    v = .string key := by
  cases v <;> simp_all [isKey]

/-- The value of the entry whose key is the string `key`, in a mapping seen through its tags. -/
def get? (v : Value) (key : String) : Option Value :=
  match v.untag with
  | .mapping es => (es.find? (isKey key ·.1)).map (·.2)
  | _ => none

/-- The string of a value, seen through its tags. -/
def asString? (v : Value) : Option String :=
  match v.untag with
  | .string s => some s
  | _ => none

theorem untag_of_asString? {v : Value} {s : String} (h : v.asString? = some s) :
    v.untag = .string s := by
  unfold asString? at h
  split at h <;> simp_all

/-- The integer of a value that fits a signed 64-bit word, seen through its tags. -/
def asInt? (v : Value) : Option Int :=
  match v.untag with
  | .number n => n.asInt?
  | _ => none

/-- The boolean of a value, seen through its tags. -/
def asBool? (v : Value) : Option Bool :=
  match v.untag with
  | .bool b => some b
  | _ => none

/-- The items of a sequence, seen through its tags. -/
def asSequence? (v : Value) : Option (List Value) :=
  match v.untag with
  | .sequence xs => some xs
  | _ => none

/-- The entries of a mapping, seen through its tags. -/
def asMapping? (v : Value) : Option (List (Value × Value)) :=
  match v.untag with
  | .mapping es => some es
  | _ => none

/-- Whether a value is null, seen through its tags. -/
def isNull (v : Value) : Bool :=
  match v.untag with
  | .null => true
  | _ => false

mutual

/-- Equality of values as mapping keys: numbers compare as `Number.same` says, mappings compare
as sets of entries, and tags must agree. -/
def same : Value → Value → Bool
  | .null, .null => true
  | .bool a, .bool b => a == b
  | .number a, .number b => a.same b
  | .string a, .string b => a == b
  | .sequence xs, .sequence ys => sameItems xs ys
  | .mapping xs, .mapping ys => xs.length == ys.length && sameEntries xs ys
  | .tagged t v, .tagged u w => t == u && same v w
  | _, _ => false

/-- Equality of two lists of values, item by item. -/
def sameItems : List Value → List Value → Bool
  | [], [] => true
  | x :: xs, y :: ys => same x y && sameItems xs ys
  | _, _ => false

/-- Whether each entry of the first list has an entry with the same key and value in the
second. -/
def sameEntries : List (Value × Value) → List (Value × Value) → Bool
  | [], _ => true
  | e :: rest, ys => sameEntry e ys && sameEntries rest ys

/-- Whether the first entry of `ys` whose key is the same as the entry's key has the same value. -/
def sameEntry : Value × Value → List (Value × Value) → Bool
  | (k, v), ys =>
    match ys.find? (fun e => same k e.1) with
    | some w => same v w.2
    | none => false

end

end Value

end ManifestLint.Yaml
