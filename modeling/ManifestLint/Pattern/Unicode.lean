import ManifestLint.Pattern.CharSet
import ManifestLint.Pattern.Error
import ManifestLint.Text.Category
import ManifestLint.Text.Script
import ManifestLint.Text.Property
import ManifestLint.Text.ScriptExtension
import ManifestLint.Text.Age
import ManifestLint.Text.Breaks
import ManifestLint.Text.Blank

/-! # Unicode classes of patterns

A Unicode class names its characters by a binary property (`\p{Alphabetic}`), a general category
(`\pL`, `\p{Uppercase_Letter}`) or a script (`\p{Greek}`), tried in that order, or by a property
and a value (`\p{gc=Lu}`, `\p{Script=Greek}`, `\p{scx=Greek}`, `\p{age=3.0}`, `\p{wb=ALetter}`).
Names are compared loosely: case, spaces, underscores and hyphens do not count, nor does a leading
`is`. A name that is no property, category or script is not found; a property that is known but
has no values here, a value it does not have, or a value that names no characters (the surrogate
category, the script `Unknown`) is a value not found. An age stands for every character assigned
in that version or an earlier one.

The Perl classes are Unicode-aware: a digit is a decimal number, a space has the `White_Space`
property, and a word character is alphabetic, a mark, a decimal number, a connector punctuation or
a joiner.
-/

namespace ManifestLint.Pattern

/-- A name compared loosely: lower case, without spaces, underscores, hyphens, characters outside
ASCII, or a leading `is`. -/
def looseName (s : String) : String :=
  let cs := s.toList
  let (cs, hadIs) := match cs with
    | a :: b :: rest => if a.toLower == 'i' && b.toLower == 's' then (rest, true) else (cs, false)
    | _ => (cs, false)
  let kept := (cs.filter fun c => c != ' ' && c != '_' && c != '-' && c.toNat ≤ 0x7F).map
    Char.toLower
  if hadIs && kept == ['c'] then "isc" else String.ofList kept

/-- The names of the properties that are not binary, each with its aliases. -/
def otherPropertyNames : List (List String) :=
  ("cjkAccountingNumeric,kAccountingNumeric;cjkOtherNumeric,kOtherNumeric;" ++
    "cjkPrimaryNumeric,kPrimaryNumeric;nv,Numeric_Value;bmg,Bidi_Mirroring_Glyph;" ++
    "bpb,Bidi_Paired_Bracket;cf,Case_Folding;cjkCompatibilityVariant,kCompatibilityVariant;" ++
    "dm,Decomposition_Mapping;EqUIdeo,Equivalent_Unified_Ideograph;FC_NFKC,FC_NFKC_Closure;" ++
    "lc,Lowercase_Mapping;NFKC_CF,NFKC_Casefold;NFKC_SCF,NFKC_Simple_Casefold;" ++
    "scf,Simple_Case_Folding,sfc;" ++
    "slc,Simple_Lowercase_Mapping;stc,Simple_Titlecase_Mapping;suc,Simple_Uppercase_Mapping;" ++
    "tc,Titlecase_Mapping;uc,Uppercase_Mapping;cjkIICore,kIICore;cjkIRG_GSource,kIRG_GSource;" ++
    "cjkIRG_HSource,kIRG_HSource;cjkIRG_JSource,kIRG_JSource;cjkIRG_KPSource,kIRG_KPSource;" ++
    "cjkIRG_KSource,kIRG_KSource;cjkIRG_MSource,kIRG_MSource;cjkIRG_SSource,kIRG_SSource;" ++
    "cjkIRG_TSource,kIRG_TSource;cjkIRG_UKSource,kIRG_UKSource;cjkIRG_USource,kIRG_USource;" ++
    "cjkIRG_VSource,kIRG_VSource;cjkRSUnicode,kRSUnicode,Unicode_Radical_Stroke,URS;" ++
    "isc,ISO_Comment;JSN,Jamo_Short_Name;na,Name;na1,Unicode_1_Name;Name_Alias;" ++
    "scx,Script_Extensions;age,Age;blk,Block;sc,Script;bc,Bidi_Class;" ++
    "bpt,Bidi_Paired_Bracket_Type;ccc,Canonical_Combining_Class;dt,Decomposition_Type;" ++
    "ea,East_Asian_Width;gc,General_Category;GCB,Grapheme_Cluster_Break;" ++
    "hst,Hangul_Syllable_Type;InCB,Indic_Conjunct_Break;InPC,Indic_Positional_Category;" ++
    "InSC,Indic_Syllabic_Category;" ++
    "jg,Joining_Group;jt,Joining_Type;lb,Line_Break;NFC_QC,NFC_Quick_Check;" ++
    "NFD_QC,NFD_Quick_Check;NFKC_QC,NFKC_Quick_Check;NFKD_QC,NFKD_Quick_Check;" ++
    "nt,Numeric_Type;SB,Sentence_Break;vo,Vertical_Orientation;WB,Word_Break;" ++
    "CE,Composition_Exclusion;Comp_Ex,Full_Composition_Exclusion;" ++
    "CWKCF,Changes_When_NFKC_Casefolded;XO_NFC,Expands_On_NFC;" ++
    "XO_NFD,Expands_On_NFD;XO_NFKC,Expands_On_NFKC;XO_NFKD,Expands_On_NFKD").splitOn ";"
    |>.map (·.splitOn ",")

/-- Whether some name of a list is a given loose name. -/
def namesMatch (loose : String) (names : List String) : Bool :=
  names.any (looseName · == loose)

/-- The long name of a property a loose name stands for, and the set of a binary one. -/
def propertyOf? (loose : String) : Option (String × Option CharSet) :=
  match Text.propertyTables.find? (namesMatch loose ·.1) with
  | some (names, t) => some (names.getLast?.getD "", some (CharSet.ofTable t))
  | none =>
    (otherPropertyNames.find? (namesMatch loose)).map fun names =>
      ((names.drop 1).head?.getD (names.head?.getD ""), none)

/-- The set of a two-letter general category. -/
def leafCategory (short : String) : CharSet :=
  match Text.categoryTables.find? (·.1 == [short]) with
  | some (_, t) => CharSet.ofTable t
  | none => {}

/-- The set of a general category by its short name, one-letter categories joining their
two-letter ones; the other categories leave out the surrogates, which are not characters. -/
def categorySet (short : String) : CharSet :=
  let parts := match short with
    | "L" => ["Ll", "Lm", "Lo", "Lt", "Lu"]
    | "LC" => ["Ll", "Lt", "Lu"]
    | "M" => ["Mc", "Me", "Mn"]
    | "N" => ["Nd", "Nl", "No"]
    | "P" => ["Pc", "Pd", "Pe", "Pf", "Pi", "Po", "Ps"]
    | "S" => ["Sc", "Sk", "Sm", "So"]
    | "Z" => ["Zl", "Zp", "Zs"]
    | "C" => ["Cc", "Cf", "Cn", "Co"]
    | s => [s]
  parts.foldl (fun acc p => acc.union (leafCategory p)) {}

/-- The set of the general category a loose name stands for, with `any`, `assigned` and `ascii`
as categories too; the surrogate category names no characters. -/
def categoryOf? (loose : String) : Option (Except ErrorKind CharSet) :=
  match loose with
  | "any" => some (.ok CharSet.all)
  | "assigned" => some (.ok (categorySet "Cn").complement)
  | "ascii" => some (.ok ⟨#[(0, 0x7F)]⟩)
  | _ =>
    (Text.categoryNames.find? (namesMatch loose)).map fun names =>
      match names.head?.getD "" with
      | "Cs" => .error .unicodePropertyValueNotFound
      | short => .ok (categorySet short)

/-- The four-letter code of the script a loose name stands for, and whether it has characters. -/
def scriptCode? (loose : String) : Option (String × Bool) :=
  match Text.scriptTables.find? (namesMatch loose ·.1) with
  | some (names, _) => some (names.head?.getD "", true)
  | none =>
    (Text.scriptsWithoutCharacters.find? (namesMatch loose)).map fun names =>
      (names.head?.getD "", false)

/-- The set of a named table, by its first name. -/
def tableSet (tables : List (List String × Text.RangeTable)) (name : String) :
    Except ErrorKind CharSet :=
  match tables.find? (·.1.head? == some name) with
  | some (_, t) => .ok (CharSet.ofTable t)
  | none => .error .unicodePropertyValueNotFound

/-- The set of the script a loose name stands for. -/
def scriptOf? (loose : String) : Option (Except ErrorKind CharSet) :=
  (scriptCode? loose).map fun (code, _) => tableSet Text.scriptTables code

/-- The set of the characters whose script extensions include the script a loose name stands
for. -/
def scriptExtensionOf? (loose : String) : Option (Except ErrorKind CharSet) :=
  (scriptCode? loose).map fun (code, _) => tableSet Text.scriptExtensionTables code

/-- The names of each Unicode version of the `Age` property: the number, then the long name. -/
def ageNames : List (List String) :=
  (Text.ageTables.map (·.1.head?.getD "")).map fun long =>
    [String.ofList ((long.toList.drop 1).map fun c => if c == '_' then '.' else c), long]

/-- The characters assigned in a version of Unicode or before it, for a loose version name;
the value `Unassigned` is known but names no version. -/
def ageOf? (loose : String) : Option (Except ErrorKind CharSet) :=
  match ageNames.findIdx? (namesMatch loose) with
  | some i =>
    some (.ok ((Text.ageTables.take (i + 1)).foldl
      (fun acc (_, t) => acc.union (CharSet.ofTable t)) {}))
  | none =>
    if namesMatch loose ["NA", "Unassigned"] then some (.error .unicodePropertyValueNotFound)
    else none

/-- The values of `Grapheme_Cluster_Break`, short name first. -/
def graphemeBreakNames : List (List String) :=
  ("CN,Control;CR;EB,E_Base;EBG,E_Base_GAZ;EM,E_Modifier;EX,Extend;GAZ,Glue_After_Zwj;L;LF;LV;" ++
    "LVT;PP,Prepend;RI,Regional_Indicator;SM,SpacingMark;T;V;XX,Other;ZWJ").splitOn ";"
    |>.map (·.splitOn ",")

/-- The values of `Word_Break`, short name first. -/
def wordBreakNames : List (List String) :=
  ("CR;DQ,Double_Quote;EB,E_Base;EBG,E_Base_GAZ;EM,E_Modifier;EX,ExtendNumLet;Extend;" ++
    "FO,Format;GAZ,Glue_After_Zwj;HL,Hebrew_Letter;KA,Katakana;LE,ALetter;LF;MB,MidNumLet;" ++
    "ML,MidLetter;MN,MidNum;NL,Newline;NU,Numeric;RI,Regional_Indicator;SQ,Single_Quote;" ++
    "WSegSpace;XX,Other;ZWJ").splitOn ";"
    |>.map (·.splitOn ",")

/-- The values of `Sentence_Break`, short name first. -/
def sentenceBreakNames : List (List String) :=
  ("AT,ATerm;CL,Close;CR;EX,Extend;FO,Format;LE,OLetter;LF;LO,Lower;NU,Numeric;SC,SContinue;" ++
    "SE,Sep;SP,Sp;ST,STerm;UP,Upper;XX,Other").splitOn ";"
    |>.map (·.splitOn ",")

/-- The set of a value of a break property, given the names of its values and its tables by long
value name. -/
def breakOf? (names : List (List String)) (tables : List (List String × Text.RangeTable))
    (loose : String) : Option (Except ErrorKind CharSet) :=
  (names.find? (namesMatch loose)).map fun ns => tableSet tables (ns.getLast?.getD "")

/-- The set of a binary property, category or script named alone. -/
def namedClass (name : String) : Except ErrorKind CharSet :=
  let loose := looseName name
  let asProperty :=
    if loose == "cf" || loose == "sc" || loose == "lc" then none else propertyOf? loose
  match asProperty with
  | some (_, some s) => .ok s
  | some (_, none) => .error .unicodePropertyNotFound
  | none =>
    match categoryOf? loose with
    | some r => r
    | none =>
      match scriptOf? loose with
      | some r => r
      | none => .error .unicodePropertyNotFound

/-- The set of a property and value: values are known for the general category, scripts and
script extensions, ages and the break properties. -/
def valueClass (name value : String) : Except ErrorKind CharSet :=
  match propertyOf? (looseName name) with
  | none => .error .unicodePropertyNotFound
  | some (long, _) =>
    let v := looseName value
    let found := match long with
      | "General_Category" => categoryOf? v
      | "Script" => scriptOf? v
      | "Script_Extensions" => scriptExtensionOf? v
      | "Age" => ageOf? v
      | "Grapheme_Cluster_Break" => breakOf? graphemeBreakNames Text.graphemeBreakTables v
      | "Word_Break" => breakOf? wordBreakNames Text.wordBreakTables v
      | "Sentence_Break" => breakOf? sentenceBreakNames Text.sentenceBreakTables v
      | _ => none
    match found with
    | some r => r
    | none => .error .unicodePropertyValueNotFound

/-- The set a Unicode class query names. -/
def UnicodeQuery.resolve : UnicodeQuery → Except ErrorKind CharSet
  | .oneLetter c => namedClass (String.singleton c)
  | .named n => namedClass n
  | .namedValue _ n v => valueClass n v

/-- Decimal digits: the general category `Nd`. -/
def digitSet : CharSet :=
  leafCategory "Nd"

/-- Blank characters: the `White_Space` property. -/
def spaceSet : CharSet :=
  match propertyOf? "whitespace" with
  | some (_, some s) => s
  | _ => {}

/-- Word characters: alphabetic characters, marks, decimal numbers, connector punctuation and
joiners. -/
def wordSet : CharSet :=
  let prop (n : String) : CharSet := match propertyOf? n with
    | some (_, some s) => s
    | _ => {}
  ((((prop "alphabetic").union (categorySet "M")).union digitSet).union
    (leafCategory "Pc")).union (prop "joincontrol")

/-- The ranges of a named ASCII class. -/
def asciiRanges : AsciiKind → List (Nat × Nat)
  | .alnum => [(0x30, 0x39), (0x41, 0x5A), (0x61, 0x7A)]
  | .alpha => [(0x41, 0x5A), (0x61, 0x7A)]
  | .ascii => [(0x00, 0x7F)]
  | .blank => [(0x09, 0x09), (0x20, 0x20)]
  | .cntrl => [(0x00, 0x1F), (0x7F, 0x7F)]
  | .digit => [(0x30, 0x39)]
  | .graph => [(0x21, 0x7E)]
  | .lower => [(0x61, 0x7A)]
  | .print => [(0x20, 0x7E)]
  | .punct => [(0x21, 0x2F), (0x3A, 0x40), (0x5B, 0x60), (0x7B, 0x7E)]
  | .space => [(0x09, 0x0D), (0x20, 0x20)]
  | .upper => [(0x41, 0x5A)]
  | .word => [(0x30, 0x39), (0x41, 0x5A), (0x5F, 0x5F), (0x61, 0x7A)]
  | .xdigit => [(0x30, 0x39), (0x41, 0x46), (0x61, 0x66)]

/-- The set of a named ASCII class. -/
def asciiSet (k : AsciiKind) : CharSet :=
  CharSet.ofList (asciiRanges k)

/-- The set of a Perl class: Unicode-aware, or ASCII only. -/
def perlSet (k : PerlKind) (unicode : Bool) : CharSet :=
  match k, unicode with
  | .digit, true => digitSet
  | .space, true => spaceSet
  | .word, true => wordSet
  | .digit, false => asciiSet .digit
  | .space, false => asciiSet .space
  | .word, false => asciiSet .word

end ManifestLint.Pattern
