import ManifestLint.Pattern.Unicode
import ManifestLint.Pattern.Parser

/-! # From syntax to terms

The syntax of a pattern becomes a term over sets of characters: every literal, dot and class is a
set of characters, and what remains are assertions, repetitions, concatenations and alternations.

Flags are a state read left to right: a flag setting holds until the end of its group, and a group
restores the flags it found on entry. The case-insensitive flag closes literals and classes under
simple case folding, before any negation. Without the Unicode flag, classes are classes of bytes:
they must stay within ASCII, since a match must be valid UTF-8, and Unicode classes are refused.
-/

namespace ManifestLint.Pattern

/-- An assertion about the place between two characters, as matching tests it. -/
inductive Look
  | start
  | finish
  | startLine (crlf : Bool)
  | endLine (crlf : Bool)
  | word (unicode : Bool)
  | notWord (unicode : Bool)
  | wordStart (unicode : Bool)
  | wordEnd (unicode : Bool)
  | wordStartHalf (unicode : Bool)
  | wordEndHalf (unicode : Bool)
deriving DecidableEq, Repr

/-- A pattern as a term over sets of characters. A repetition says whether it prefers more
repetitions to fewer, and a group that captures is kept as such: neither changes what matches,
but both shape the automaton the term compiles to. -/
inductive Term
  | empty
  | chars (s : CharSet)
  | look (l : Look)
  | repetition (t : Term) (min : Nat) (max : Option Nat) (greedy : Bool)
  | capture (t : Term)
  | concat (ts : List Term)
  | alternation (ts : List Term)
deriving Repr

/-- The flags in force while a pattern is lowered to a term. -/
structure Flags where
  caseInsensitive : Bool := false
  multiLine : Bool := false
  dotMatchesNewLine : Bool := false
  unicode : Bool := true
  crlf : Bool := false
  swapGreed : Bool := false
deriving DecidableEq, Repr

namespace Flags

/-- The flags after a flag setting: the flags it names are set, the others kept. -/
def apply (f : Flags) (items : List FlagItem) : Flags :=
  let get (flag : Flag) (old : Bool) : Bool := (flagState items flag).getD old
  { caseInsensitive := get .caseInsensitive f.caseInsensitive
    multiLine := get .multiLine f.multiLine
    dotMatchesNewLine := get .dotMatchesNewLine f.dotMatchesNewLine
    unicode := get .unicode f.unicode
    crlf := get .crlf f.crlf
    swapGreed := get .swapGreed f.swapGreed }

/-- Closes a set under case folding if the case-insensitive flag is on: simple case folding, or
ASCII case folding without the Unicode flag. -/
def fold (f : Flags) (s : CharSet) : CharSet :=
  if !f.caseInsensitive then s else if f.unicode then s.caseFold else s.asciiCaseFold

end Flags

/-- Every byte. -/
def allBytes : CharSet :=
  ⟨#[(0, 0xFF)]⟩

/-- Case folds and negates a class of characters. -/
def unicodeFoldNegate (f : Flags) (negated : Bool) (s : CharSet) : CharSet :=
  let s := f.fold s
  if negated then s.complement else s

/-- Case folds and negates a class of bytes; the result must lie within ASCII. -/
def byteFoldNegate (f : Flags) (span : Span) (negated : Bool) (s : CharSet) :
    Except PatternError CharSet :=
  let s := f.fold s
  let s := if negated then allBytes.diff s else s
  if s.isAscii then .ok s else .error ⟨.invalidUtf8, span, none⟩

/-- Case folds and negates a class under the flags. -/
def foldNegate (f : Flags) (span : Span) (negated : Bool) (s : CharSet) :
    Except PatternError CharSet :=
  if f.unicode then .ok (unicodeFoldNegate f negated s) else byteFoldNegate f span negated s

/-- The character of a literal: without the Unicode flag, a `\x` escape above ASCII is a byte,
which cannot be matched in UTF-8. -/
def literalChar (f : Flags) (l : Literal) : Except PatternError Char :=
  if !f.unicode && l.hexByte && l.c.toNat > 0x7F && l.c.toNat ≤ 0xFF then
    .error ⟨.invalidUtf8, l.span, none⟩
  else .ok l.c

/-- The code point of a literal in a class: without the Unicode flag it must be ASCII. -/
def classLiteral (f : Flags) (l : Literal) : Except PatternError Nat := do
  let c ← literalChar f l
  if !f.unicode && c.toNat > 0x7F then throw ⟨.unicodeNotAllowed, l.span, none⟩
  return c.toNat

/-- The set of a Perl class: Unicode-aware, or of ASCII bytes. -/
def perlClass (f : Flags) (span : Span) (k : PerlKind) (negated : Bool) :
    Except PatternError CharSet :=
  if f.unicode then
    let s := perlSet k true
    .ok (if negated then s.complement else s)
  else byteFoldNegate { f with caseInsensitive := false } span negated (perlSet k false)

/-- The set of a Unicode class; refused without the Unicode flag. -/
def unicodeClass (f : Flags) (span : Span) (q : UnicodeQuery) (negated : Bool) :
    Except PatternError CharSet :=
  if !f.unicode then .error ⟨.unicodeNotAllowed, span, none⟩
  else
    match q.resolve with
    | .error kind => .error ⟨kind, span, none⟩
    | .ok s =>
      let notEqual := match q with
        | .namedValue ne _ _ => ne
        | _ => false
      .ok (unicodeFoldNegate f (negated != notEqual) s)

/-- The set of a literal outside a class: the character, closed under case folding. -/
def literalSet (f : Flags) (l : Literal) : Except PatternError CharSet := do
  let c ← literalChar f l
  return f.fold (CharSet.single c)

/-- The set of the dot: every character but a line feed (and a carriage return in CRLF mode),
or every character with the `s` flag; without the Unicode flag it would match any byte. -/
def dotSet (f : Flags) (span : Span) : Except PatternError CharSet :=
  if !f.unicode then .error ⟨.invalidUtf8, span, none⟩
  else if f.dotMatchesNewLine then .ok CharSet.all
  else if f.crlf then .ok (CharSet.all.diff (CharSet.ofList [(0x0A, 0x0A), (0x0D, 0x0D)]))
  else .ok (CharSet.all.diff (CharSet.single '\n'))

/-- The look of an assertion under the flags. -/
def assertionLook (f : Flags) : Assertion → Look
  | .startLine => if f.multiLine then .startLine f.crlf else .start
  | .endLine => if f.multiLine then .endLine f.crlf else .finish
  | .startText => .start
  | .endText => .finish
  | .wordBoundary => .word f.unicode
  | .notWordBoundary => .notWord f.unicode
  | .wordStart | .wordStartAngle => .wordStart f.unicode
  | .wordEnd | .wordEndAngle => .wordEnd f.unicode
  | .wordStartHalf => .wordStartHalf f.unicode
  | .wordEndHalf => .wordEndHalf f.unicode

/-- Combines two sets by a set operation. -/
def SetOp.apply : SetOp → CharSet → CharSet → CharSet
  | .intersection => CharSet.inter
  | .difference => CharSet.diff
  | .symmetricDifference => CharSet.symmDiff

mutual

/-- The set of an item of a bracketed class, before the class is folded and negated. -/
def itemSet (f : Flags) : ClassItem → Except PatternError CharSet
  | .literal l => do
    let c ← classLiteral f l
    return CharSet.ofList [(c, c)]
  | .range _ lo hi => do
    let a ← classLiteral f lo
    let b ← classLiteral f hi
    return CharSet.ofList [(a, b)]
  | .ascii span k negated => foldNegate f span negated (asciiSet k)
  | .unicode span q negated => unicodeClass f span q negated
  | .perl span k negated => perlClass f span k negated
  | .bracketed b => bracketSet f b
  | .empty _ => .ok {}
  | .union _ items => itemsSet f items

/-- The union of the sets of items. -/
def itemsSet (f : Flags) : List ClassItem → Except PatternError CharSet
  | [] => .ok {}
  | i :: is => do
    let a ← itemSet f i
    let b ← itemsSet f is
    return a.union b

/-- The set of the contents of a bracketed class; both sides of a set operation are folded. -/
def contentsSet (f : Flags) : ClassSet → Except PatternError CharSet
  | .item i => itemSet f i
  | .op _ kind lhs rhs => do
    let a ← contentsSet f lhs
    let b ← contentsSet f rhs
    return kind.apply (f.fold a) (f.fold b)

/-- The set of a bracketed class, folded and negated. -/
def bracketSet (f : Flags) : Bracketed → Except PatternError CharSet
  | .mk span negated contents => do
    let s ← contentsSet f contents
    foldNegate f span negated s

end

mutual

/-- The term of a pattern under the flags, with the flags in force after it. -/
def lower (f : Flags) : Ast → Except PatternError (Term × Flags)
  | .empty => .ok (.empty, f)
  | .setFlags items => .ok (.empty, f.apply items)
  | .literal l => do return (.chars (← literalSet f l), f)
  | .dot span => do return (.chars (← dotSet f span), f)
  | .assertion _ k => .ok (.look (assertionLook f k), f)
  | .unicode span q negated => do return (.chars (← unicodeClass f span q negated), f)
  | .perl span k negated => do return (.chars (← perlClass f span k negated), f)
  | .bracketed b => do return (.chars (← bracketSet f b), f)
  | .repetition _ a bounds greedy => do
    let (t, g) ← lower f a
    return (.repetition t bounds.min bounds.max (greedy != f.swapGreed), g)
  | .group _ flags a => do
    let inner := match flags with
      | some items => f.apply items
      | none => f
    let (t, _) ← lower inner a
    return (if flags.isNone then .capture t else t, f)
  | .alternation _ branches => do
    let (ts, g) ← lowerAll f branches
    return (.alternation ts, g)
  | .concat _ items => do
    let (ts, g) ← lowerAll f items
    return (.concat ts, g)

/-- The terms of patterns read one after another, the flags carried from each to the next. -/
def lowerAll (f : Flags) : List Ast → Except PatternError (List Term × Flags)
  | [] => .ok ([], f)
  | a :: as => do
    let (t, g) ← lower f a
    let (ts, h) ← lowerAll g as
    return (t :: ts, h)

end

theorem flags_apply_nil (f : Flags) : f.apply [] = f := by
  simp [Flags.apply, flagState, flagState.go]

end ManifestLint.Pattern
