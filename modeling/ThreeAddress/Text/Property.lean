import ThreeAddress.Text.Characters
import ThreeAddress.Text.Pieces
import ThreeAddress.Text.Property.Age
import ThreeAddress.Text.Property.Binary
import ThreeAddress.Text.Property.Category
import ThreeAddress.Text.Property.Script
import ThreeAddress.Text.Property.Segmentation

/-!
The characters that have a property. A property is asked for by a name alone or by its name
and a value. A name alone is that of a property which a character has or does not have, of a
general category or of a script, in this order. Names match loosely: case, blanks, hyphens and low
lines do not count, nor does an `is` in front.
-/

namespace ThreeAddress.Text.Property

/-! ## Names -/

def startsWithIs (name : List Char) : Bool :=
  (name.take 2).map Char.toLower == ['i', 's']

def counts (c : Char) : Bool :=
  c.toNat < 0x80 && c != ' ' && c != '_' && c != '-'

/-- The name `isc` keeps its front, because without it another name would be left. -/
def loose (name : List Char) : List Char :=
  let plain := ((if startsWithIs name then name.drop 2 else name).filter counts).map Char.toLower
  if startsWithIs name && plain == ['c'] then ['i', 's', 'c'] else plain

/-- Whether `name`, which is loose, is among names with blanks between them. -/
def isAmong (name : List Char) (names : String) : Bool :=
  (pieces (· == ' ') names.toList).any fun other => loose other == name

/-- Properties that have values, or that patterns know nothing but the names of. -/
def otherProperties : List String := [
   "cjkAccountingNumeric kAccountingNumeric", "cjkOtherNumeric kOtherNumeric",
   "cjkPrimaryNumeric kPrimaryNumeric", "nv Numeric_Value", "cf Case_Folding",
   "cjkCompatibilityVariant kCompatibilityVariant", "dm Decomposition_Mapping",
   "FC_NFKC FC_NFKC_Closure", "lc Lowercase_Mapping", "NFKC_CF NFKC_Casefold",
   "NFKC_SCF NFKC_Simple_Casefold", "scf Simple_Case_Folding sfc",
   "slc Simple_Lowercase_Mapping", "stc Simple_Titlecase_Mapping",
   "suc Simple_Uppercase_Mapping", "tc Titlecase_Mapping", "uc Uppercase_Mapping",
   "bmg Bidi_Mirroring_Glyph", "bpb Bidi_Paired_Bracket", "cjkIICore kIICore",
   "cjkIRG_GSource kIRG_GSource", "cjkIRG_HSource kIRG_HSource", "cjkIRG_JSource kIRG_JSource",
   "cjkIRG_KPSource kIRG_KPSource", "cjkIRG_KSource kIRG_KSource", "cjkIRG_MSource kIRG_MSource",
   "cjkIRG_SSource kIRG_SSource", "cjkIRG_TSource kIRG_TSource",
   "cjkIRG_UKSource kIRG_UKSource", "cjkIRG_USource kIRG_USource", "cjkIRG_VSource kIRG_VSource",
   "cjkMandarin kMandarin", "cjkRSUnicode kRSUnicode Unicode_Radical_Stroke URS",
   "cjkTotalStrokes kTotalStrokes", "cjkUnihanCore2020 kUnihanCore2020",
   "EqUIdeo Equivalent_Unified_Ideograph", "isc ISO_Comment", "JSN Jamo_Short_Name",
   "kEH_Cat", "kEH_Desc", "kEH_HG", "kEH_IFAO", "kEH_JSesh", "na Name", "na1 Unicode_1_Name",
   "Name_Alias", "scx Script_Extensions", "age Age", "blk Block", "sc Script", "bc Bidi_Class",
   "bpt Bidi_Paired_Bracket_Type", "ccc Canonical_Combining_Class", "dt Decomposition_Type",
   "ea East_Asian_Width", "gc General_Category", "GCB Grapheme_Cluster_Break",
   "hst Hangul_Syllable_Type", "InCB Indic_Conjunct_Break", "InPC Indic_Positional_Category",
   "InSC Indic_Syllabic_Category", "jg Joining_Group", "jt Joining_Type", "lb Line_Break",
   "NFC_QC NFC_Quick_Check", "NFD_QC NFD_Quick_Check", "NFKC_QC NFKC_Quick_Check",
   "NFKD_QC NFKD_Quick_Check", "nt Numeric_Type", "SB Sentence_Break", "vo Vertical_Orientation",
   "WB Word_Break", "CE Composition_Exclusion", "Comp_Ex Full_Composition_Exclusion",
   "CWKCF Changes_When_NFKC_Casefolded", "kEH_NoMirror", "kEH_NoRotate",
   "XO_NFC Expands_On_NFC", "XO_NFD Expands_On_NFD", "XO_NFKC Expands_On_NFKC",
   "XO_NFKD Expands_On_NFKD"]

/-! ## Values -/

/-- What an unanswered question asks for and does not exist. -/
inductive Missing where
  | property
  | value
  deriving DecidableEq, Repr

inductive Question where
  | alone (name : List Char)
  | valued (name value : List Char)
  deriving DecidableEq, Repr

def letters : List String := ["Lu", "Ll", "Lt", "Lm", "Lo"]
def marks : List String := ["Mn", "Mc", "Me"]
def numbers : List String := ["Nd", "Nl", "No"]
def punctuation : List String := ["Pc", "Pd", "Ps", "Pe", "Pi", "Pf", "Po"]
def symbols : List String := ["Sm", "Sc", "Sk", "So"]
def separators : List String := ["Zs", "Zl", "Zp"]

/-- Categories under their names, each with those that it unites. -/
def categoryGroups : List (String × List String) := [
   ("LC Cased_Letter", ["Lu", "Ll", "Lt"]), ("L Letter", letters),
   ("M Mark Combining_Mark", marks), ("N Number", numbers), ("P Punctuation punct", punctuation),
   ("S Symbol", symbols), ("Z Separator", separators), ("C Other", ["Cc", "Cf", "Co", "Cn"]),
   ("Nd Decimal_Number digit", ["Nd"]), ("Cn Unassigned", ["Cn"]),
   ("Assigned", letters ++ marks ++ numbers ++ punctuation ++ symbols ++ separators ++
     ["Cc", "Cf", "Co"])]

def emptyValues : List String := ["Cs Surrogate", "Zzzz Unknown", "Hrkt Katakana_Or_Hiragana"]

/-- Properties that are made of others: those that are united, and those that are taken away. -/
structure Derivation where
  names : String
  parts : List String
  without : List String := []

def alphabeticParts : List String := letters ++ ["Nl", "OUpper", "OLower", "OAlpha"]

def derivations : List Derivation := [
   ⟨"Alpha Alphabetic", alphabeticParts, []⟩,
   ⟨"Lower Lowercase", ["Ll", "OLower"], []⟩,
   ⟨"Upper Uppercase", ["Lu", "OUpper"], []⟩,
   ⟨"Cased", ["Lu", "Ll", "Lt", "OUpper", "OLower"], []⟩,
   ⟨"CI Case_Ignorable", ["Mn", "Me", "Cf", "Lm", "Sk", "mid_word"], []⟩,
   ⟨"CWCM Changes_When_Casemapped", ["CWL", "CWU", "CWT"], []⟩,
   ⟨"IDS ID_Start", letters ++ ["Nl", "OIDS"], ["Pat_Syn", "Pat_WS"]⟩,
   ⟨"IDC ID_Continue", letters ++ ["Nl", "OIDS", "Mn", "Mc", "Nd", "Pc", "OIDC"],
     ["Pat_Syn", "Pat_WS"]⟩,
   ⟨"XIDS XID_Start", letters ++ ["Nl", "OIDS"], ["Pat_Syn", "Pat_WS", "no_XID_Start"]⟩,
   ⟨"XIDC XID_Continue", letters ++ ["Nl", "OIDS", "Mn", "Mc", "Nd", "Pc", "OIDC"],
     ["Pat_Syn", "Pat_WS", "no_XID_Continue"]⟩,
   ⟨"Math", ["Sm", "OMath"], []⟩,
   ⟨"Gr_Ext Grapheme_Extend", ["Mn", "Me", "OGr_Ext"], []⟩,
   ⟨"Gr_Base Grapheme_Base",
     letters ++ ["Mc"] ++ numbers ++ punctuation ++ symbols ++ ["Zs"], ["OGr_Ext"]⟩]

def code (names : String) : String :=
  String.ofList (names.toList.takeWhile (· != ' '))

def row? (table : RangeTable) (name : List Char) : Option Ranges :=
  (table.find? fun row => isAmong name row.1).map fun row => Ranges.ofText row.2

def assigned : Ranges :=
  decimalDigits ++ categoryTable.flatMap fun row => Ranges.ofText row.2

def surrogates : Nat × Nat := (0xd800, 0xdfff)

/-- The part of a property that stands under this code in a table. -/
def part (name : String) : Ranges :=
  if name == "Nd" then decimalDigits
  else if name == "Cn" then Ranges.complement (surrogates :: assigned)
  else
    ((categoryTable ++ propertyTable ++ propertyPartTable).filter fun row =>
      code row.1 == name).flatMap fun row => Ranges.ofText row.2

def uniteParts (names : List String) : Ranges :=
  Ranges.normal (names.flatMap part)

def Derivation.ranges (derivation : Derivation) : Ranges :=
  if derivation.without.isEmpty then uniteParts derivation.parts
  else (uniteParts derivation.parts).difference (uniteParts derivation.without)

def category? (name : List Char) : Option Ranges :=
  if name == "any".toList then some Ranges.everything
  else if name == "ascii".toList then some [(0, 0x7f)]
  else
    match categoryGroups.find? fun group => isAmong name group.1 with
    | some group => some (uniteParts group.2)
    | none => row? categoryTable name

def script? (name : List Char) : Option Ranges :=
  row? scriptTable name

def binary? (name : List Char) : Option Ranges :=
  match derivations.find? fun derivation => isAmong name derivation.names with
  | some derivation => some derivation.ranges
  | none =>
      if isAmong name "WSpace White_Space space" then some blanks else row? propertyTable name

def isProperty (name : List Char) : Bool :=
  otherProperties.any (isAmong name) || isAmong name "WSpace White_Space space" ||
    derivations.any (fun derivation => isAmong name derivation.names) ||
      propertyTable.any fun row => isAmong name row.1

/-- Names that are those of a property with values and yet, when they stand alone, mean a
general category. -/
def ambiguous : List String := ["cf", "sc", "lc"]

def ofName (name : List Char) : Except Missing Ranges :=
  if isProperty name && !ambiguous.contains (String.ofList name) then
    match binary? name with
    | some ranges => .ok ranges
    | none => .error .property
  else
    match (category? name).or (script? name) with
    | some ranges => .ok ranges
    | none => .error (if emptyValues.any (isAmong name) then .value else .property)

/-- The characters that some version assigned, up to the named one. -/
def age? (name : List Char) : RangeTable → Option Ranges
  | [] => none
  | row :: later =>
      if isAmong name row.1 then some (Ranges.ofText row.2)
      else (age? name later).map (Ranges.ofText row.2 ++ ·)

def scriptExtensions? (name : List Char) : Option Ranges :=
  (scriptTable.find? fun row => isAmong name row.1).map fun row =>
    let shared := sharedScriptTable.map fun entry => (entry.1, Ranges.ofText entry.2)
    let ofScript := shared.filter fun entry => isAmong (loose (code row.1).toList) entry.1
    Ranges.union ((Ranges.ofText row.2).difference (shared.flatMap (·.2)))
      (ofScript.flatMap (·.2))

def hangulSyllables : Ranges := [(0xac00, 0xd7a3)]

def graphemeBreak? (name : List Char) : Option Ranges :=
  if isAmong name "LVT" then
    (row? graphemeBreakTable ['l', 'v']).map hangulSyllables.difference
  else row? graphemeBreakTable name

def value? (property value : List Char) : Option Ranges :=
  if isAmong property "gc General_Category" then category? value
  else if isAmong property "sc Script" then script? value
  else if isAmong property "scx Script_Extensions" then scriptExtensions? value
  else if isAmong property "age" then age? value ageTable
  else if isAmong property "GCB Grapheme_Cluster_Break" then graphemeBreak? value
  else if isAmong property "WB Word_Break" then row? wordBreakTable value
  else if isAmong property "SB Sentence_Break" then row? sentenceBreakTable value
  else none

def ofValue (property value : List Char) : Except Missing Ranges :=
  if isProperty property then
    match value? property value with
    | some ranges => .ok ranges
    | none => .error .value
  else .error .property

def Question.answer : Question → Except Missing Ranges
  | alone name => (ofName (loose name)).map Ranges.normal
  | valued name value => (ofValue (loose name) (loose value)).map Ranges.normal

/-- Letters of ASCII need no table. -/
def isAlphabetic (c : Char) : Bool :=
  c.isAlpha || (0x80 ≤ c.toNat && (uniteParts alphabeticParts).has c)

def isNumeric (c : Char) : Bool :=
  c.isDigit || (0x80 ≤ c.toNat && (uniteParts numbers).has c)

end ThreeAddress.Text.Property
