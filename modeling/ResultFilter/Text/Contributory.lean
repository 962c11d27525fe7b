import ResultFilter.Text.Canonical
import ResultFilter.Text.Category
import ResultFilter.Text.Property

/-!
# Contributory properties

Properties that the standard uses to make up others, and properties of a few characters. Where a
property is what a union of categories leaves of another one, it is computed.

## Main definitions

* `contributoryProperties` — the properties of this module.
-/

namespace ResultFilter.Text

/-- A property with the members that it shares with no category of a list. -/
def beyondCategories (name abbreviation : String) (whole : CodeSet) (categories : List Category) :
    BinaryProperty where
  name := name
  abbreviations := [abbreviation]
  table := ""
  listed := whole.diff (.unions (categories.map Category.codes))

/-- The members of Alphabetic that have no case. -/
def uncasedAlphabeticCodes : CodeSet :=
  (alphabeticProperty.members.diff lowercaseProperty.members).diff uppercaseProperty.members

/-- The property Prepended Concatenation Mark. -/
def prependedConcatenationMarkProperty : BinaryProperty where
  name := "Prepended_Concatenation_Mark"
  abbreviations := ["PCM"]
  table := "600-605 6DD 70F 890-891 8E2 110BD 110CD"

/-- The code points that count as mathematical identifiers where the standard allows them. -/
def mathIdentifierTable : String :=
  "2202 2207 221E 1D6C1 1D6DB 1D6FB 1D715 1D735 1D74F 1D76F 1D789 1D7A9 1D7C3"

/-- The contributory properties, and those of a few characters. -/
def contributoryProperties : List BinaryProperty :=
  [beyondCategories "Other_Alphabetic" "OAlpha" uncasedAlphabeticCodes
     [.titlecaseLetter, .modifierLetter, .otherLetter, .letterNumber],
   beyondCategories "Other_Grapheme_Extend" "OGr_Ext" graphemeExtendProperty.members
     [.enclosingMark, .nonspacingMark],
   beyondCategories "Other_Lowercase" "OLower" lowercaseProperty.members [.lowercaseLetter],
   beyondCategories "Other_Math" "OMath" mathProperty.members [.mathSymbol],
   beyondCategories "Other_Uppercase" "OUpper" uppercaseProperty.members [.uppercaseLetter],
   ⟨"Other_Default_Ignorable_Code_Point", ["ODI"],
    "34F 115F-1160 17B4-17B5 2065 3164 FFA0 FFF0-FFF8 E0000 E0002-E001F E0080-E00FF E01F0-E0FFF",
    .empty⟩,
   ⟨"Other_ID_Start", ["OIDS"], "1885-1886 2118 212E 309B-309C", .empty⟩,
   ⟨"Other_ID_Continue", ["OIDC"], "B7 387 1369-1371 19DA 200C-200D 30FB FF65", .empty⟩,
   ⟨"Grapheme_Link", ["Gr_Link"], (combiningClassTable.lookup 9).getD "", .empty⟩,
   ⟨"Hyphen", [], "2D AD 58A 1806 2010-2011 2E17 30FB FE63 FF0D FF65", .empty⟩,
   ⟨"IDS_Unary_Operator", ["IDSU"], "2FFE-2FFF", .empty⟩,
   ⟨"ID_Compat_Math_Start", [], mathIdentifierTable, .empty⟩,
   ⟨"ID_Compat_Math_Continue", [], "B2-B3 B9 2070 2074-207E 2080-208E " ++ mathIdentifierTable,
    .empty⟩,
   ⟨"Modifier_Combining_Mark", ["MCM"],
    "654-655 658 6DC 6E3 6E7-6E8 8CA-8CB 8CD-8CF 8D3 8F3", .empty⟩,
   prependedConcatenationMarkProperty]

end ResultFilter.Text
