import WidgetLocator.Text
import WidgetLocator.CharSet
import WidgetLocator.Unicode.Age
import WidgetLocator.Unicode.Break
import WidgetLocator.Unicode.Category
import WidgetLocator.Unicode.Folding
import WidgetLocator.Unicode.Property
import WidgetLocator.Unicode.Script

namespace WidgetLocator

/-- A run of a property of all code points: where it starts, and the value from there on. -/
structure PropertyRun where
  start : Nat
  value : List Char
deriving Repr

/-- Reads a run: a hexadecimal number and a value that does not start like one. -/
def readRun (item : List Char) : PropertyRun :=
  let isDigit (c : Char) : Bool := isAsciiDigit c || ('a' ≤ c && c ≤ 'f')
  ⟨(hexNumber? (item.takeWhile isDigit)).getD 0, item.dropWhile isDigit⟩

def tableItems (lines : List String) : List (List Char) :=
  lines.flatMap fun line => line.toList.splitOn ' '

/-- Reads a range written as one or two hexadecimal numbers. -/
def readRange (item : List Char) : Nat × Nat :=
  match splitAtFirst '-' item with
  | some (a, b) => ((hexNumber? a).getD 0, (hexNumber? b).getD 0)
  | none => ((hexNumber? item).getD 0, (hexNumber? item).getD 0)

def rangesOf (lines : List String) : CharSet :=
  .ofRanges ((tableItems lines).map readRange)

/-- The ranges of the runs whose value is accepted. -/
def acceptedRuns (accepts : List Char → Bool) : List PropertyRun → List (Nat × Nat)
  | [] => []
  | [run] => if accepts run.value then [(run.start, 0x10FFFF)] else []
  | run :: next :: rest =>
    if accepts run.value then (run.start, next.start - 1) :: acceptedRuns accepts (next :: rest)
    else acceptedRuns accepts (next :: rest)

def categoryTable : List PropertyRun :=
  (tableItems categoryRuns).map readRun

def scriptTable : List PropertyRun :=
  (tableItems scriptRuns).map readRun

def scriptExtensionTable : List PropertyRun :=
  (tableItems scriptExtensionRuns).map readRun

def ageTable : List PropertyRun :=
  (tableItems ageRuns).map readRun

/-- The code points whose General_Category is among some values. -/
def inCategories (categories : List String) : CharSet :=
  let values := categories.map String.toList
  .ofRanges (acceptedRuns (fun v => values.contains v) categoryTable)

/-- The categories that a value of General_Category stands for. -/
def categoryMembers (value : String) : List String :=
  if value = "LC" then ["Lu", "Ll", "Lt"]
  else if value.length = 1 then
    (categoryNames.filterMap List.head?).filter fun n =>
      n.length = 2 && n ≠ "LC" && value.toList.isPrefixOf n.toList
  else [value]

/-- A derived property: the categories it is built from, corrected where the two differ, as are the
ones that follow. -/
def alphabetic : CharSet :=
  (inCategories ["Lu", "Ll", "Lt", "Lm", "Lo", "Nl"]).symmDiff (rangesOf alphabeticDifferences)

def lowercase : CharSet :=
  (inCategories ["Ll"]).symmDiff (rangesOf lowercaseDifferences)

def uppercase : CharSet :=
  (inCategories ["Lu"]).symmDiff (rangesOf uppercaseDifferences)

def caseIgnorable : CharSet :=
  (inCategories ["Mn", "Me", "Cf", "Lm", "Sk"]).symmDiff (rangesOf caseIgnorableDifferences)

def graphemeExtend : CharSet :=
  (inCategories ["Mn", "Me"]).symmDiff (rangesOf graphemeExtendDifferences)

def math : CharSet :=
  (inCategories ["Sm"]).symmDiff (rangesOf mathDifferences)

def idStart : CharSet :=
  (inCategories ["Lu", "Ll", "Lt", "Lm", "Lo", "Nl"]).symmDiff (rangesOf idStartDifferences)

def idContinue : CharSet :=
  (idStart.union (inCategories ["Mn", "Mc", "Nd", "Pc"])).symmDiff (rangesOf idContinueDifferences)

def xidStart : CharSet :=
  idStart.symmDiff (rangesOf xidStartDifferences)

def xidContinue : CharSet :=
  idContinue.symmDiff (rangesOf xidContinueDifferences)

def changesWhenUppercased : CharSet :=
  lowercase.symmDiff (rangesOf changesWhenUppercasedDifferences)

def changesWhenLowercased : CharSet :=
  uppercase.symmDiff (rangesOf changesWhenLowercasedDifferences)

def changesWhenTitlecased : CharSet :=
  changesWhenUppercased.symmDiff (rangesOf changesWhenTitlecasedDifferences)

def changesWhenCasefolded : CharSet :=
  changesWhenLowercased.symmDiff (rangesOf changesWhenCasefoldedDifferences)

def cased : CharSet :=
  lowercase.union (uppercase.union (inCategories ["Lt"]))

def graphemeBase : CharSet :=
  ((inCategories ["Cc", "Cf", "Cs", "Co", "Cn", "Zl", "Zp"]).union graphemeExtend).complement

def changesWhenCasemapped : CharSet :=
  changesWhenLowercased.union (changesWhenUppercased.union changesWhenTitlecased)

/-- The properties that hold or do not hold of a character, with their names. -/
def characterProperties : List (List String × (Unit → CharSet)) := [
  (["AHex", "ASCII_Hex_Digit"], fun _ => rangesOf asciiHexDigitRanges),
  (["Alpha", "Alphabetic"], fun _ => alphabetic),
  (["Bidi_C", "Bidi_Control"], fun _ => rangesOf bidiControlRanges),
  (["Bidi_M", "Bidi_Mirrored"], fun _ => rangesOf bidiMirroredRanges),
  (["CI", "Case_Ignorable"], fun _ => caseIgnorable),
  (["Cased"], fun _ => cased),
  (["CWCF", "Changes_When_Casefolded"], fun _ => changesWhenCasefolded),
  (["CWCM", "Changes_When_Casemapped"], fun _ => changesWhenCasemapped),
  (["CWL", "Changes_When_Lowercased"], fun _ => changesWhenLowercased),
  (["CWT", "Changes_When_Titlecased"], fun _ => changesWhenTitlecased),
  (["CWU", "Changes_When_Uppercased"], fun _ => changesWhenUppercased),
  (["Dash"], fun _ => rangesOf dashRanges),
  (["DI", "Default_Ignorable_Code_Point"],
    fun _ => rangesOf defaultIgnorableCodePointRanges),
  (["Dep", "Deprecated"], fun _ => rangesOf deprecatedRanges),
  (["Dia", "Diacritic"], fun _ => rangesOf diacriticRanges),
  (["Emoji"], fun _ => rangesOf emojiRanges),
  (["EComp", "Emoji_Component"], fun _ => rangesOf emojiComponentRanges),
  (["EMod", "Emoji_Modifier"], fun _ => rangesOf emojiModifierRanges),
  (["EBase", "Emoji_Modifier_Base"], fun _ => rangesOf emojiModifierBaseRanges),
  (["EPres", "Emoji_Presentation"], fun _ => rangesOf emojiPresentationRanges),
  (["ExtPict", "Extended_Pictographic"],
    fun _ => rangesOf extendedPictographicRanges),
  (["Ext", "Extender"], fun _ => rangesOf extenderRanges),
  (["Gr_Base", "Grapheme_Base"], fun _ => graphemeBase),
  (["Gr_Ext", "Grapheme_Extend"], fun _ => graphemeExtend),
  (["Hex", "Hex_Digit"], fun _ => rangesOf hexDigitRanges),
  (["IDSB", "IDS_Binary_Operator"], fun _ => rangesOf idsBinaryOperatorRanges),
  (["IDST", "IDS_Trinary_Operator"], fun _ => rangesOf idsTrinaryOperatorRanges),
  (["IDC", "ID_Continue"], fun _ => idContinue),
  (["IDS", "ID_Start"], fun _ => idStart),
  (["Ideo", "Ideographic"], fun _ => rangesOf ideographicRanges),
  (["Join_C", "Join_Control"], fun _ => rangesOf joinControlRanges),
  (["LOE", "Logical_Order_Exception"], fun _ => rangesOf logicalOrderExceptionRanges),
  (["Lower", "Lowercase"], fun _ => lowercase),
  (["Math"], fun _ => math),
  (["NChar", "Noncharacter_Code_Point"],
    fun _ => rangesOf noncharacterCodePointRanges),
  (["Pat_Syn", "Pattern_Syntax"], fun _ => rangesOf patternSyntaxRanges),
  (["Pat_WS", "Pattern_White_Space"], fun _ => rangesOf patternWhiteSpaceRanges),
  (["PCM", "Prepended_Concatenation_Mark"],
    fun _ => rangesOf prependedConcatenationMarkRanges),
  (["QMark", "Quotation_Mark"], fun _ => rangesOf quotationMarkRanges),
  (["Radical"], fun _ => rangesOf radicalRanges),
  (["RI", "Regional_Indicator"], fun _ => rangesOf regionalIndicatorRanges),
  (["STerm", "Sentence_Terminal"], fun _ => rangesOf sentenceTerminalRanges),
  (["SD", "Soft_Dotted"], fun _ => rangesOf softDottedRanges),
  (["Term", "Terminal_Punctuation"], fun _ => rangesOf terminalPunctuationRanges),
  (["UIdeo", "Unified_Ideograph"], fun _ => rangesOf unifiedIdeographRanges),
  (["Upper", "Uppercase"], fun _ => uppercase),
  (["VS", "Variation_Selector"], fun _ => rangesOf variationSelectorRanges),
  (["WSpace", "White_Space", "Space"], fun _ => rangesOf whiteSpaceRanges),
  (["XIDC", "XID_Continue"], fun _ => xidContinue),
  (["XIDS", "XID_Start"], fun _ => xidStart)]

/-- The Hangul syllables without a final consonant. -/
def openSyllables : CharSet :=
  .ofRanges ((List.range 399).map fun i => (0xAC00 + 28 * i, 0xAC00 + 28 * i))

/-- The values of Grapheme_Cluster_Break, with their names. -/
def graphemeBreaks : List (List String × (Unit → CharSet)) := [
  (["CR"], fun _ => rangesOf ["d"]),
  (["Control", "CN"], fun _ => rangesOf graphemeBreakControlRanges),
  (["Extend", "EX"], fun _ => graphemeExtend.union (rangesOf emojiModifierRanges)),
  (["L"], fun _ => rangesOf ["1100-115f a960-a97c"]),
  (["LF"], fun _ => rangesOf ["a"]),
  (["LV"], fun _ => openSyllables),
  (["LVT"], fun _ => (CharSet.ofRanges [(0xAC00, 0xD7A3)]).diff openSyllables),
  (["Prepend", "PP"], fun _ => rangesOf graphemeBreakPrependRanges),
  (["Regional_Indicator", "RI"], fun _ => rangesOf ["1f1e6-1f1ff"]),
  (["SpacingMark", "SM"],
    fun _ => (inCategories ["Mc"]).symmDiff (rangesOf graphemeBreakSpacingMarkDifferences)),
  (["T"], fun _ => rangesOf ["11a8-11ff d7cb-d7fb"]),
  (["V"], fun _ => rangesOf ["1160-11a7 d7b0-d7c6"]),
  (["ZWJ"], fun _ => rangesOf ["200d"])]

/-- The values of Word_Break, with their names. -/
def wordBreaks : List (List String × (Unit → CharSet)) := [
  (["ALetter", "LE"], fun _ => alphabetic.symmDiff (rangesOf wordBreakALetterDifferences)),
  (["CR"], fun _ => rangesOf ["d"]),
  (["Double_Quote", "DQ"], fun _ => rangesOf ["22"]),
  (["Extend"],
    fun _ =>
      (graphemeExtend.union (inCategories ["Mc"])).symmDiff (rangesOf wordBreakExtendDifferences)),
  (["ExtendNumLet", "EX"], fun _ => rangesOf wordBreakExtendNumLetRanges),
  (["Format", "FO"], fun _ => (inCategories ["Cf"]).symmDiff (rangesOf wordBreakFormatDifferences)),
  (["Hebrew_Letter", "HL"], fun _ => rangesOf wordBreakHebrewLetterRanges),
  (["Katakana", "KA"], fun _ => rangesOf wordBreakKatakanaRanges),
  (["LF"], fun _ => rangesOf ["a"]),
  (["MidLetter", "ML"], fun _ => rangesOf wordBreakMidLetterRanges),
  (["MidNum", "MN"], fun _ => rangesOf wordBreakMidNumRanges),
  (["MidNumLet", "MB"], fun _ => rangesOf wordBreakMidNumLetRanges),
  (["Newline", "NL"], fun _ => rangesOf wordBreakNewlineRanges),
  (["Numeric", "NU"],
    fun _ => (inCategories ["Nd"]).symmDiff (rangesOf wordBreakNumericDifferences)),
  (["Regional_Indicator", "RI"], fun _ => rangesOf ["1f1e6-1f1ff"]),
  (["Single_Quote", "SQ"], fun _ => rangesOf ["27"]),
  (["WSegSpace"], fun _ => rangesOf wordBreakWSegSpaceRanges),
  (["ZWJ"], fun _ => rangesOf ["200d"])]

/-- The values of Sentence_Break, with their names. -/
def sentenceBreaks : List (List String × (Unit → CharSet)) := [
  (["ATerm", "AT"], fun _ => rangesOf sentenceBreakATermRanges),
  (["CR"], fun _ => rangesOf ["d"]),
  (["Close", "CL"], fun _ => rangesOf sentenceBreakCloseRanges),
  (["Extend", "EX"],
    fun _ =>
      (graphemeExtend.union (inCategories ["Mc"])).symmDiff
        (rangesOf sentenceBreakExtendDifferences)),
  (["Format", "FO"],
    fun _ => (inCategories ["Cf"]).symmDiff (rangesOf sentenceBreakFormatDifferences)),
  (["LF"], fun _ => rangesOf ["a"]),
  (["Lower", "LO"], fun _ => lowercase.symmDiff (rangesOf sentenceBreakLowerDifferences)),
  (["Numeric", "NU"],
    fun _ => (inCategories ["Nd"]).symmDiff (rangesOf sentenceBreakNumericDifferences)),
  (["OLetter", "LE"],
    fun _ =>
      (alphabetic.diff (lowercase.union uppercase)).symmDiff
        (rangesOf sentenceBreakOLetterDifferences)),
  (["SContinue", "SC"], fun _ => rangesOf sentenceBreakSContinueRanges),
  (["STerm", "ST"],
    fun _ => (rangesOf sentenceTerminalRanges).symmDiff (rangesOf sentenceBreakSTermDifferences)),
  (["Sep", "SE"], fun _ => rangesOf ["85 2028-2029"]),
  (["Sp", "SP"], fun _ => rangesOf sentenceBreakSpRanges),
  (["Upper", "UP"], fun _ => uppercase.symmDiff (rangesOf sentenceBreakUpperDifferences))]

/-- The decimal digits of all scripts. -/
def unicodeDigits : CharSet :=
  inCategories ["Nd"]

def unicodeBlanks : CharSet :=
  rangesOf whiteSpaceRanges

/-- The characters of words: letters, marks, digits, connectors and joiners. -/
def unicodeWordCharacters : CharSet :=
  (alphabetic.union (inCategories ["Mn", "Mc", "Me", "Nd", "Pc"])).union
    (rangesOf joinControlRanges)

/-- Letters and the like, and numbers. -/
def unicodeAlphanumerics : CharSet :=
  alphabetic.union (inCategories ["Nd", "Nl", "No"])

/-- A property name in the form in which names are compared: ASCII, lower case, without blanks,
underscores, hyphens and a leading `is`. -/
def looseName (name : List Char) : List Char :=
  let lower := name.map asciiLower
  let (is, rest) := match lower with
    | 'i' :: 's' :: rest => (true, rest)
    | _ => (false, lower)
  let kept := rest.filter fun c => c ≠ ' ' && c ≠ '_' && c ≠ '-' && c.toNat < 128
  if is && kept == ['c'] then ['i', 's', 'c'] else kept

/-- Compares a name of a table with a name in loose form. -/
def named (loose : List Char) (name : String) : Bool :=
  looseName name.toList == loose

/-- The set of a value of General_Category, by loose name. -/
def category? (loose : List Char) : Option CharSet :=
  if loose = "any".toList then some .all
  else if loose = "assigned".toList then some (inCategories ["Cn"]).complement
  else if loose = "ascii".toList then some (.ofRanges [(0, 127)])
  else
    (categoryNames.find? (·.any (named loose))).bind List.head? |>.map fun value =>
      inCategories (categoryMembers value)

/-- The short name of a script, by loose name. -/
def scriptNamed? (loose : List Char) : Option (List Char) :=
  (scriptNames.find? (·.any (named loose))).bind List.head? |>.map String.toList

def script? (loose : List Char) : Option CharSet :=
  (scriptNamed? loose).map fun value => .ofRanges (acceptedRuns (· == value) scriptTable)

/-- The set of the characters that are used with a script, by loose name. -/
def scriptExtension? (loose : List Char) : Option CharSet :=
  (scriptNamed? loose).map fun value =>
    .ofRanges (acceptedRuns (fun v => (v.splitOn '+').contains value) scriptExtensionTable)

/-- The code points that were assigned in a version or before it, by loose name of the version. -/
def assignedBy? (loose : List Char) : Option CharSet :=
  (ageNames.findIdx? (·.any (named loose))).map fun i =>
    .ofRanges (acceptedRuns ((ageLetters.take (i + 1)).map fun c => [c]).contains ageTable)

/-- The set of a value among some values with their names, by loose name. -/
def valueNamed? (values : List (List String × (Unit → CharSet))) (loose : List Char) :
    Option CharSet :=
  (values.find? (·.1.any (named loose))).map fun v => v.2 ()

/-- The set of a property, a category or a script, by name. Three names that a category shares
with a property mean the category. -/
def propertySet? (name : List Char) : Option CharSet :=
  let loose := looseName name
  let property :=
    if loose = "cf".toList ∨ loose = "sc".toList ∨ loose = "lc".toList then none
    else valueNamed? characterProperties loose
  property <|> category? loose <|> script? loose

/-- The set of the characters that have a value for a property, both by name. -/
def propertyValueSet? (property value : List Char) : Option CharSet :=
  let loose := looseName property
  if loose = "gc".toList ∨ loose = "generalcategory".toList then category? (looseName value)
  else if loose = "sc".toList ∨ loose = "script".toList then script? (looseName value)
  else if loose = "scx".toList ∨ loose = "scriptextensions".toList then
    scriptExtension? (looseName value)
  else if loose = "age".toList then assignedBy? (looseName value)
  else if loose = "gcb".toList ∨ loose = "graphemeclusterbreak".toList then
    valueNamed? graphemeBreaks (looseName value)
  else if loose = "wb".toList ∨ loose = "wordbreak".toList then
    valueNamed? wordBreaks (looseName value)
  else if loose = "sb".toList ∨ loose = "sentencebreak".toList then
    valueNamed? sentenceBreaks (looseName value)
  else none

/-- Reads an item of the folding table as pairs of a code point and what it folds to. -/
def readFold (item : List Char) : List (Nat × Nat) :=
  match splitAtFirst '>' item with
  | none => []
  | some (source, target) =>
    let target := (hexNumber? target).getD 0
    match splitAtFirst '/' source with
    | none => [((hexNumber? source).getD 0, target)]
    | some (range, stride) =>
      let (first, last) := readRange range
      let stride := decimalValue stride
      (List.range ((last - first) / stride + 1)).map fun i =>
        (first + stride * i, target + stride * i)

/-- The code points that fold to another one, with that one. -/
def foldTable : List (Nat × Nat) :=
  (tableItems foldRuns).flatMap readFold

/-- A set with all code points that fold like one of its members. -/
def CharSet.foldCase (s : CharSet) : CharSet :=
  let targets := foldTable.filterMap fun (c, t) => if s.containsCode c then some (t, t) else none
  let withTargets := s.union (.ofRanges targets)
  let sources := foldTable.filterMap fun (c, t) =>
    if withTargets.containsCode t then some (c, c) else none
  withTargets.union (.ofRanges sources)

/-- A set with the ASCII letters of the other case. -/
def CharSet.foldAsciiCase (s : CharSet) : CharSet :=
  let lower := (s.inter (.ofRanges [(65, 90)])).ranges.toList.map fun (a, b) => (a + 32, b + 32)
  let upper := (s.inter (.ofRanges [(97, 122)])).ranges.toList.map fun (a, b) => (a - 32, b - 32)
  s.union (.ofRanges (lower ++ upper))

end WidgetLocator
