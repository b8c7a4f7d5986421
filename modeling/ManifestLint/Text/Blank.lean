/-! # Blank characters

The characters with the Unicode `White_Space` property, and trimming a text by them. Quantities
are trimmed this way before they are read, and document separators are recognised by them.
-/

namespace ManifestLint.Text

/-- A character is blank when it has the Unicode `White_Space` property. -/
def isBlank (c : Char) : Bool :=
  let n := c.toNat
  (0x09 ≤ n && n ≤ 0x0D) || n == 0x20 || n == 0x85 || n == 0xA0 || n == 0x1680 ||
    (0x2000 ≤ n && n ≤ 0x200A) || n == 0x2028 || n == 0x2029 || n == 0x202F ||
    n == 0x205F || n == 0x3000

/-- Drops the blank characters at the front of a list. -/
def dropBlank (cs : List Char) : List Char :=
  cs.dropWhile isBlank

/-- Drops the blank characters at both ends of a text. -/
def trimBlank (s : String) : String :=
  String.ofList (dropBlank (dropBlank s.toList).reverse).reverse

theorem dropBlank_head {cs : List Char} {c : Char} (h : (dropBlank cs).head? = some c) :
    isBlank c = false := by
  unfold dropBlank at h
  induction cs with
  | nil => simp at h
  | cons d r ih =>
    by_cases hd : isBlank d = true
    · simp [hd] at h
      exact ih h
    · simp [hd] at h
      subst h
      simpa using hd

end ManifestLint.Text
