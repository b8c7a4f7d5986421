import ManifestLint.Text.Unprintable
import ManifestLint.Text.Extending

/-! # Quoted text in messages

Messages quote names, images and patterns between double quotes. Inside the quotes the double
quote and the backslash are escaped, NUL, tab, carriage return and line feed are written `\0`,
`\t`, `\r` and `\n`, and a character that does not print or that extends the grapheme before it
is written as `\u` with its code point in lower-case hexadecimal between braces.
-/

namespace ManifestLint.Text

/-- Lower-case hexadecimal digits of a number. -/
def hexLower (n : Nat) : String :=
  String.ofList (Nat.toDigits 16 n)

/-- How one character is written between double quotes. -/
def escapeChar (c : Char) : String :=
  match c with
  | '\x00' => "\\0"
  | '\t' => "\\t"
  | '\r' => "\\r"
  | '\n' => "\\n"
  | '\\' => "\\\\"
  | '"' => "\\\""
  | _ =>
    if isExtending c || isUnprintable c then "\\u\x7b" ++ hexLower c.toNat ++ "\x7d"
    else String.singleton c

/-- A text between double quotes, escaped. -/
def quote (s : String) : String :=
  "\"" ++ String.join (s.toList.map escapeChar) ++ "\""

/-- A list of texts as a bracketed, comma-separated list of quoted texts. -/
def quoteList (xs : List String) : String :=
  "[" ++ ", ".intercalate (xs.map quote) ++ "]"

end ManifestLint.Text
