import ResultFilter.Text.Category
import ResultFilter.Text.Contributory
import ResultFilter.Text.Property
import ResultFilter.Text.Script

/-!
# Classes for the division of text

The standard divides text into characters as readers see them, into words and into sentences. Its rules
tell characters apart by three properties, whose values are unions and differences of other properties
with a few characters named one by one.

## Main definitions

* `SegmentClass` — a value of such a property, with its names and its members.
* `graphemeBreakClasses`, `wordBreakClasses`, `sentenceBreakClasses` — the values of the three.
-/

namespace ResultFilter.Text

/-- A value of a property that divides text. -/
structure SegmentClass where
  /-- The long name. -/
  name : String
  /-- The short name. -/
  abbreviation : String
  /-- The members. -/
  members : CodeSet

/-! ### Sets that more than one property uses -/

/-- The carriage return. -/
def carriageReturnCodes : CodeSet := .single '\r'

/-- The line feed. -/
def lineFeedCodes : CodeSet := .single '\n'

/-- The joiner of zero width. -/
def zeroWidthJoinerCodes : CodeSet := .ofHex "200D"

/-- The joiner of zero width and the non-joiner. -/
def zeroWidthJoinerPairCodes : CodeSet := .ofHex "200C-200D"

/-- What follows a character and belongs to it. -/
def extendingCodes : CodeSet :=
  (graphemeExtendProperty.members.union emojiModifierProperty.members).diff zeroWidthJoinerCodes

/-- The marks that stand before the digits they span, and count as digits. -/
def numericMarkCodes : CodeSet := .ofHex "600-605 6DD 890-891 8E2 110BD 110CD"

/-- Formats that stand alone. -/
def plainFormatCodes : CodeSet :=
  (Category.format.codes.diff prependedConcatenationMarkProperty.members).diff
    (graphemeExtendProperty.members.union zeroWidthJoinerPairCodes)

/-! ### Characters as readers see them -/

/-- The first sounds of Hangul syllables. -/
def leadingJamoCodes : CodeSet := .ofHex "1100-115F A960-A97C"

/-- Syllables of Hangul: a first sound and a vowel. -/
def openSyllableCodes : CodeSet :=
  ⟨(List.range 399).map fun k => (0xAC00 + 28 * k, 0xAC00 + 28 * k)⟩

/-- What stands before a character and belongs to it. -/
def prependedCodes : CodeSet :=
  prependedConcatenationMarkProperty.members.union
    (.ofHex "D4E 111C2-111C3 113D1 1193F 11941 11A3A 11A84-11A89 11D46 11F02")

/-- The controls, and the code points that are kept for formats. -/
def breakingControlCodes : CodeSet :=
  ((CodeSet.unions
      [Category.lineSeparator.codes, Category.paragraphSeparator.codes, Category.control.codes,
       Category.format.codes,
       Category.unassigned.codes.inter defaultIgnorableCodePointProperty.members]).diff
    (.unions [carriageReturnCodes, lineFeedCodes, zeroWidthJoinerPairCodes, extendingCodes])).diff
    prependedConcatenationMarkProperty.members

/-- The spacing marks that belong to the character before them. -/
def attachedMarkCodes : CodeSet :=
  ((Category.spacingMark.codes.union (.ofHex "E33 EB3")).diff extendingCodes).diff
    (.ofHex
      "102B-102C 1038 1062-1064 1067-106D 1083 1087-108C 108F 109A-109C 1A61 1A63-1A64 AA7B AA7D
       11720-11721")

/-- The values of Grapheme Cluster Break. -/
def graphemeBreakClasses : List SegmentClass :=
  [⟨"CR", "CR", carriageReturnCodes⟩,
   ⟨"Control", "CN", breakingControlCodes⟩,
   ⟨"Extend", "EX", extendingCodes⟩,
   ⟨"L", "L", leadingJamoCodes⟩,
   ⟨"LF", "LF", lineFeedCodes⟩,
   ⟨"LV", "LV", openSyllableCodes⟩,
   ⟨"LVT", "LVT", (CodeSet.range 0xAC00 0xD7A3).diff openSyllableCodes⟩,
   ⟨"Prepend", "PP", prependedCodes⟩,
   ⟨"Regional_Indicator", "RI", regionalIndicatorProperty.members⟩,
   ⟨"SpacingMark", "SM", attachedMarkCodes⟩,
   ⟨"T", "T", .ofHex "11A8-11FF D7CB-D7FB"⟩,
   ⟨"V", "V", .ofHex "1160-11A7 D7B0-D7C6 16D63 16D67-16D6A"⟩,
   ⟨"ZWJ", "ZWJ", zeroWidthJoinerCodes⟩]

/-! ### Words -/

/-- What follows a character of a word and belongs to it. -/
def wordExtendingCodes : CodeSet :=
  extendingCodes.union Category.spacingMark.codes

/-- The members of a script, by its long name. -/
def scriptCodes (name : String) : CodeSet :=
  match scripts.find? (·.name == name) with
  | some s => s.members
  | none => .empty

/-- The letters of Hebrew. -/
def hebrewLetterCodes : CodeSet :=
  (scriptCodes "Hebrew").inter Category.otherLetter.codes

/-- Katakana, and the marks that are used with it. -/
def katakanaCodes : CodeSet :=
  (scriptCodes "Katakana").union (.ofHex "3031-3035 309B-309C 30A0 30FC FF70")

/-- The characters of scripts without blanks between words, whose lines are broken with a dictionary. -/
def unspacedScriptCodes : CodeSet :=
  .ofHex
    "E01-E3A E40-E4E E81-E82 E84 E86-E8A E8C-EA3 EA5 EA7-EBD EC0-EC4 EC6 EC8-ECE EDC-EDF 1000-103F
    1050-108F 109A-109F 1780-17D3 17D7 17DC-17DD 1950-196D 1970-1974 1980-19AB 19B0-19C9 19DA
    19DE-19DF 1A20-1A5E 1A60-1A7C 1AA0-1AAD A9E0-A9EF A9FA-A9FE AA60-AAC2 AADB-AADF 11700-1171A
    1171D-1172B 1173A-1173B 1173F-11746"

/-- The digits of words. -/
def wordDigitCodes : CodeSet :=
  .unions [Category.decimalNumber.codes, .ofHex "66B", numericMarkCodes]

/-- The letters of words, of scripts that put blanks between words. -/
def wordLetterCodes : CodeSet :=
  (alphabeticProperty.members.union
    (.ofHex
      "2C2-2C5 2D2-2D7 2DE-2DF 2E5-2EB 2ED 2EF-2FF 55A-55C 55E 58A 5F3 70F A708-A716 A720-A721
       A789-A78A AB5B")).diff
    (.unions
      [ideographicProperty.members, katakanaCodes, unspacedScriptCodes, scriptCodes "Hiragana",
       wordExtendingCodes, hebrewLetterCodes, wordDigitCodes])

/-- The values of Word Break. -/
def wordBreakClasses : List SegmentClass :=
  [⟨"ALetter", "LE", wordLetterCodes⟩,
   ⟨"CR", "CR", carriageReturnCodes⟩,
   ⟨"Double_Quote", "DQ", .single '"'⟩,
   ⟨"Extend", "Extend", wordExtendingCodes⟩,
   ⟨"ExtendNumLet", "EX", Category.connectorPunctuation.codes.union (.ofHex "202F")⟩,
   ⟨"Format", "FO", plainFormatCodes.diff (.ofHex "200B")⟩,
   ⟨"Hebrew_Letter", "HL", hebrewLetterCodes⟩,
   ⟨"Katakana", "KA", katakanaCodes⟩,
   ⟨"LF", "LF", lineFeedCodes⟩,
   ⟨"MidLetter", "ML", .ofHex "3A B7 387 55F 5F4 2027 FE13 FE55 FF1A"⟩,
   ⟨"MidNum", "MN", .ofHex "2C 3B 37E 589 60C-60D 66C 7F8 2044 FE10 FE14 FE50 FE54 FF0C FF1B"⟩,
   ⟨"MidNumLet", "MB", .ofHex "2E 2018-2019 2024 FE52 FF07 FF0E"⟩,
   ⟨"Newline", "NL", .ofHex "B-C 85 2028-2029"⟩,
   ⟨"Numeric", "NU", wordDigitCodes⟩,
   ⟨"Regional_Indicator", "RI", regionalIndicatorProperty.members⟩,
   ⟨"Single_Quote", "SQ", .single '\''⟩,
   ⟨"WSegSpace", "WSegSpace", Category.spaceSeparator.codes.diff (.ofHex "A0 2007 202F")⟩,
   ⟨"ZWJ", "ZWJ", zeroWidthJoinerCodes⟩]

/-! ### Sentences -/

/-- What follows a character of a sentence and belongs to it. -/
def sentenceExtendingCodes : CodeSet :=
  .unions [graphemeExtendProperty.members, Category.spacingMark.codes, zeroWidthJoinerCodes]

/-- The ends of paragraphs. -/
def paragraphEndCodes : CodeSet := .ofHex "85 2028-2029"

/-- The small letters that tell that a sentence goes on. -/
def sentenceLowerCodes : CodeSet :=
  lowercaseProperty.members.diff
    (graphemeExtendProperty.members.union (.ofHex "10D0-10FA 10FD-10FF"))

/-- The capital letters that a sentence begins with. -/
def sentenceUpperCodes : CodeSet :=
  Category.titlecaseLetter.codes.union (uppercaseProperty.members.diff (.ofHex "1C90-1CBA 1CBD-1CBF"))

/-- The full stops. -/
def fullStopCodes : CodeSet := .ofHex "2E 2024 FE52 FF0E"

/-- The marks that end a sentence for certain. -/
def sentenceEndCodes : CodeSet :=
  sentenceTerminalProperty.members.diff fullStopCodes

/-- The brackets and the quotation marks. -/
def enclosingPunctuationCodes : CodeSet :=
  (CodeSet.unions
    [Category.openPunctuation.codes, Category.closePunctuation.codes,
     Category.initialPunctuation.codes, Category.finalPunctuation.codes,
     .ofHex "22 27 275B-2760 2E00-2E01 2E06-2E08 2E0B 1F676-1F678"]).diff
    (.unions [.ofHex "5F3", fullStopCodes, sentenceEndCodes])

/-- The values of Sentence Break. -/
def sentenceBreakClasses : List SegmentClass :=
  [⟨"ATerm", "AT", fullStopCodes⟩,
   ⟨"CR", "CR", carriageReturnCodes⟩,
   ⟨"Close", "CL", enclosingPunctuationCodes⟩,
   ⟨"Extend", "EX", sentenceExtendingCodes⟩,
   ⟨"Format", "FO", plainFormatCodes⟩,
   ⟨"LF", "LF", lineFeedCodes⟩,
   ⟨"Lower", "LO", sentenceLowerCodes⟩,
   ⟨"Numeric", "NU",
    .unions [Category.decimalNumber.codes, .ofHex "66B-66C", numericMarkCodes]⟩,
   ⟨"OLetter", "LE",
    (alphabeticProperty.members.union (.ofHex "5F3 70F")).diff
      (.unions [sentenceLowerCodes, sentenceUpperCodes, sentenceExtendingCodes])⟩,
   ⟨"SContinue", "SC",
    .ofHex
      "2C-2D 3A-3B 37E 55D 60C-60D 7F8 1802 1808 2013-2014 3001 FE10-FE11 FE13-FE14 FE31-FE32
       FE50-FE51 FE54-FE55 FE58 FE63 FF0C-FF0D FF1A-FF1B FF64"⟩,
   ⟨"STerm", "ST", sentenceEndCodes⟩,
   ⟨"Sep", "SE", paragraphEndCodes⟩,
   ⟨"Sp", "SP",
    whiteSpaceProperty.members.diff
      (.unions [paragraphEndCodes, carriageReturnCodes, lineFeedCodes])⟩,
   ⟨"Upper", "UP", sentenceUpperCodes⟩]

end ResultFilter.Text
