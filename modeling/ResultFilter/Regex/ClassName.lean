import ResultFilter.Regex.Ast
import ResultFilter.Text.Age
import ResultFilter.Text.Segment

/-!
# Classes by name

A Unicode class is named by a property, a general category or a script, or by one of these with a value.
Names are compared without regard to case, blanks, dashes and underscores.

## Main definitions

* `Regex.looseName` — a name without what does not count in it.
* `Regex.classMembers?` — the members of a named class.
* `Regex.AsciiClass.members`, `Regex.ShortClass.members` — those of the other classes.
-/

namespace ResultFilter.Regex

open ResultFilter.Text

/-- A name without what does not count in it: a leading `is`, blanks, dashes, underscores, and case. -/
def looseName (name : Text) : Text :=
  let (startsWithIs, body) := match name with
    | a :: b :: rest =>
      if (a == 'i' || a == 'I') && (b == 's' || b == 'S') then (true, rest) else (false, name)
    | _ => (false, name)
  let loose := (body.filter fun c => c.toNat < 0x80 && c != ' ' && c != '_' && c != '-').map Char.toLower
  if startsWithIs && loose == ['c'] then "isc".toList else loose

/-- Whether a loose name is one of the given names. -/
def isNamed (loose : Text) (names : List String) : Bool :=
  names.any fun name => looseName name.toList == loose

/-- The general categories and their unions, each with its names. -/
def categoryNames : List (List String × List Category) :=
  [(["C", "Other"], [.control, .format, .surrogate, .privateUse, .unassigned]),
   (["Cc", "Control", "cntrl"], [.control]),
   (["Cf", "Format"], [.format]),
   (["Cn", "Unassigned"], [.unassigned]),
   (["Co", "Private_Use"], [.privateUse]),
   (["Cs", "Surrogate"], [.surrogate]),
   (["L", "Letter"],
    [.uppercaseLetter, .lowercaseLetter, .titlecaseLetter, .modifierLetter, .otherLetter]),
   (["LC", "Cased_Letter"], [.uppercaseLetter, .lowercaseLetter, .titlecaseLetter]),
   (["Ll", "Lowercase_Letter"], [.lowercaseLetter]),
   (["Lm", "Modifier_Letter"], [.modifierLetter]),
   (["Lo", "Other_Letter"], [.otherLetter]),
   (["Lt", "Titlecase_Letter"], [.titlecaseLetter]),
   (["Lu", "Uppercase_Letter"], [.uppercaseLetter]),
   (["M", "Mark", "Combining_Mark"], [.nonspacingMark, .spacingMark, .enclosingMark]),
   (["Mc", "Spacing_Mark"], [.spacingMark]),
   (["Me", "Enclosing_Mark"], [.enclosingMark]),
   (["Mn", "Nonspacing_Mark"], [.nonspacingMark]),
   (["N", "Number"], [.decimalNumber, .letterNumber, .otherNumber]),
   (["Nd", "Decimal_Number", "digit"], [.decimalNumber]),
   (["Nl", "Letter_Number"], [.letterNumber]),
   (["No", "Other_Number"], [.otherNumber]),
   (["P", "Punctuation", "punct"],
    [.connectorPunctuation, .dashPunctuation, .openPunctuation, .closePunctuation,
     .initialPunctuation, .finalPunctuation, .otherPunctuation]),
   (["Pc", "Connector_Punctuation"], [.connectorPunctuation]),
   (["Pd", "Dash_Punctuation"], [.dashPunctuation]),
   (["Pe", "Close_Punctuation"], [.closePunctuation]),
   (["Pf", "Final_Punctuation"], [.finalPunctuation]),
   (["Pi", "Initial_Punctuation"], [.initialPunctuation]),
   (["Po", "Other_Punctuation"], [.otherPunctuation]),
   (["Ps", "Open_Punctuation"], [.openPunctuation]),
   (["S", "Symbol"], [.mathSymbol, .currencySymbol, .modifierSymbol, .otherSymbol]),
   (["Sc", "Currency_Symbol"], [.currencySymbol]),
   (["Sk", "Modifier_Symbol"], [.modifierSymbol]),
   (["Sm", "Math_Symbol"], [.mathSymbol]),
   (["So", "Other_Symbol"], [.otherSymbol]),
   (["Z", "Separator"], [.lineSeparator, .paragraphSeparator, .spaceSeparator]),
   (["Zl", "Line_Separator"], [.lineSeparator]),
   (["Zp", "Paragraph_Separator"], [.paragraphSeparator]),
   (["Zs", "Space_Separator"], [.spaceSeparator])]

/-- The members of a general category, or of one of the classes named beside them. -/
def categoryMembers? (loose : Text) : Option CodeSet :=
  if loose == "any".toList then some (.range 0 CodeSet.last)
  else if loose == "ascii".toList then some (.range 0 0x7F)
  else if loose == "assigned".toList then some Category.assigned
  else
    (categoryNames.find? fun row => isNamed loose row.1).map fun row =>
      .unions (row.2.map Category.codes)

/-- The script with a name. -/
def scriptNamed? (loose : Text) : Option Script :=
  scripts.find? fun s => isNamed loose (s.name :: s.codes)

/-- The members of a property with a name. A general category with the same short name comes first. -/
def propertyMembers? (loose : Text) : Option CodeSet :=
  ((binaryProperties ++ contributoryProperties).find? fun p =>
    isNamed loose (p.name :: p.abbreviations)).map (·.members)

/-- The code points that a version had assigned; a version is named by its number, `V4_1` or `4.1`. -/
def ageMembers? (loose : Text) : Option CodeSet :=
  codesUpTo? fun version =>
    isNamed loose [version, "V" ++ String.ofList (version.toList.filter (· != '.'))]

/-- The members of a class that divides text. -/
def segmentMembers? (classes : List SegmentClass) (loose : Text) : Option CodeSet :=
  (classes.find? fun c => isNamed loose [c.name, c.abbreviation]).map (·.members)

/-- The members of a named class. -/
def classMembers? : ClassName → Option CodeSet
  | .name name =>
    let loose := looseName name
    propertyMembers? loose <|> categoryMembers? loose <|> (scriptNamed? loose).map (·.members)
  | .value property value =>
    let property := looseName property
    let value := looseName value
    if isNamed property ["General_Category", "gc"] then categoryMembers? value
    else if isNamed property ["Script", "sc"] then (scriptNamed? value).map (·.members)
    else if isNamed property ["Script_Extensions", "scx"] then (scriptNamed? value).map (·.extended)
    else if isNamed property ["Age"] then ageMembers? value
    else if isNamed property ["Grapheme_Cluster_Break", "GCB"] then
      segmentMembers? graphemeBreakClasses value
    else if isNamed property ["Word_Break", "WB"] then segmentMembers? wordBreakClasses value
    else if isNamed property ["Sentence_Break", "SB"] then
      segmentMembers? sentenceBreakClasses value
    else none

/-- The ranges between pairs of characters. -/
def charRanges (pairs : List (Char × Char)) : CodeSet :=
  .ofPairs (pairs.map fun (a, b) => (a.toNat, b.toNat))

/-- The members of a class of ASCII characters. -/
def AsciiClass.members : AsciiClass → CodeSet
  | .alnum => charRanges [('0', '9'), ('A', 'Z'), ('a', 'z')]
  | .alpha => charRanges [('A', 'Z'), ('a', 'z')]
  | .ascii => .range 0 0x7F
  | .blank => charRanges [('\t', '\t'), (' ', ' ')]
  | .cntrl => .ofPairs [(0, 0x1F), (0x7F, 0x7F)]
  | .digit => charRanges [('0', '9')]
  | .graph => charRanges [('!', '~')]
  | .lower => charRanges [('a', 'z')]
  | .print => charRanges [(' ', '~')]
  | .punct => charRanges [('!', '/'), (':', '@'), ('[', Char.ofNat 0x60), ('\x7b', '~')]
  | .space => charRanges [('\t', '\r'), (' ', ' ')]
  | .upper => charRanges [('A', 'Z')]
  | .word => charRanges [('0', '9'), ('A', 'Z'), ('_', '_'), ('a', 'z')]
  | .xdigit => charRanges [('0', '9'), ('A', 'F'), ('a', 'f')]

/-- The digits of all scripts. -/
def digitCodes : CodeSet := Category.decimalNumber.codes

/-- White space. -/
def spaceCodes : CodeSet := whiteSpaceProperty.members

/-- The characters of words: letters and the like, marks, digits, connectors and joiners. -/
def wordCodes : CodeSet :=
  .unions [alphabeticProperty.members, markCodes, digitCodes, Category.connectorPunctuation.codes,
    joinControlProperty.members]

/-- The members of a class with a short escape; outside of Unicode only ASCII counts. -/
def ShortClass.members (unicode : Bool) : ShortClass → CodeSet
  | .digit => if unicode then digitCodes else AsciiClass.digit.members
  | .space => if unicode then spaceCodes else AsciiClass.space.members
  | .word => if unicode then wordCodes else AsciiClass.word.members

end ResultFilter.Regex
