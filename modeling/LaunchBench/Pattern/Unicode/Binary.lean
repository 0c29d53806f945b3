import LaunchBench.Pattern.Unicode.Binary1
import LaunchBench.Pattern.Unicode.Binary2
import LaunchBench.Pattern.Unicode.Binary3
/-!
Yes-or-no properties of the characters patterns know (Unicode 16.0).

Every property has a canonical name, such as `White_Space`, and other names,
such as `WSpace` and `space`.
-/

namespace LaunchBench.Pattern.Unicode

open LaunchBench.Text

/-- Each yes-or-no property's canonical name with all its names. -/
def binaryNames : List (String × List String) :=
  [("ASCII_Hex_Digit", ["ASCII_Hex_Digit", "AHex"]),
    ("Alphabetic", ["Alphabetic", "Alpha"]),
    ("Bidi_Control", ["Bidi_Control", "Bidi_C"]),
    ("Bidi_Mirrored", ["Bidi_Mirrored", "Bidi_M"]),
    ("Case_Ignorable", ["Case_Ignorable", "CI"]),
    ("Cased", ["Cased"]),
    ("Changes_When_Casefolded", ["Changes_When_Casefolded", "CWCF"]),
    ("Changes_When_Casemapped", ["Changes_When_Casemapped", "CWCM"]),
    ("Changes_When_Lowercased", ["Changes_When_Lowercased", "CWL"]),
    ("Changes_When_Titlecased", ["Changes_When_Titlecased", "CWT"]),
    ("Changes_When_Uppercased", ["Changes_When_Uppercased", "CWU"]),
    ("Dash", ["Dash"]),
    ("Default_Ignorable_Code_Point", ["Default_Ignorable_Code_Point", "DI"]),
    ("Deprecated", ["Deprecated", "Dep"]),
    ("Diacritic", ["Diacritic", "Dia"]),
    ("Emoji", ["Emoji"]),
    ("Emoji_Component", ["Emoji_Component", "EComp"]),
    ("Emoji_Modifier", ["Emoji_Modifier", "EMod"]),
    ("Emoji_Modifier_Base", ["Emoji_Modifier_Base", "EBase"]),
    ("Emoji_Presentation", ["Emoji_Presentation", "EPres"]),
    ("Extended_Pictographic", ["Extended_Pictographic", "ExtPict"]),
    ("Extender", ["Extender", "Ext"]),
    ("Grapheme_Base", ["Grapheme_Base", "Gr_Base"]),
    ("Grapheme_Extend", ["Grapheme_Extend", "Gr_Ext"]),
    ("Grapheme_Link", ["Grapheme_Link", "Gr_Link"]),
    ("Hex_Digit", ["Hex_Digit", "Hex"]),
    ("Hyphen", ["Hyphen"]),
    ("IDS_Binary_Operator", ["IDS_Binary_Operator", "IDSB"]),
    ("IDS_Trinary_Operator", ["IDS_Trinary_Operator", "IDST"]),
    ("IDS_Unary_Operator", ["IDS_Unary_Operator", "IDSU"]),
    ("ID_Compat_Math_Continue", ["ID_Compat_Math_Continue"]),
    ("ID_Compat_Math_Start", ["ID_Compat_Math_Start"]),
    ("ID_Continue", ["ID_Continue", "IDC"]),
    ("ID_Start", ["ID_Start", "IDS"]),
    ("Ideographic", ["Ideographic", "Ideo"]),
    ("Join_Control", ["Join_Control", "Join_C"]),
    ("Logical_Order_Exception", ["Logical_Order_Exception", "LOE"]),
    ("Lowercase", ["Lowercase", "Lower"]),
    ("Math", ["Math"]),
    ("Modifier_Combining_Mark", ["Modifier_Combining_Mark", "MCM"]),
    ("Noncharacter_Code_Point", ["Noncharacter_Code_Point", "NChar"]),
    ("Other_Alphabetic", ["Other_Alphabetic", "OAlpha"]),
    ("Other_Default_Ignorable_Code_Point", ["Other_Default_Ignorable_Code_Point", "ODI"]),
    ("Other_Grapheme_Extend", ["Other_Grapheme_Extend", "OGr_Ext"]),
    ("Other_ID_Continue", ["Other_ID_Continue", "OIDC"]),
    ("Other_ID_Start", ["Other_ID_Start", "OIDS"]),
    ("Other_Lowercase", ["Other_Lowercase", "OLower"]),
    ("Other_Math", ["Other_Math", "OMath"]),
    ("Other_Uppercase", ["Other_Uppercase", "OUpper"]),
    ("Pattern_Syntax", ["Pattern_Syntax", "Pat_Syn"]),
    ("Pattern_White_Space", ["Pattern_White_Space", "Pat_WS"]),
    ("Prepended_Concatenation_Mark", ["Prepended_Concatenation_Mark", "PCM"]),
    ("Quotation_Mark", ["Quotation_Mark", "QMark"]),
    ("Radical", ["Radical"]),
    ("Regional_Indicator", ["Regional_Indicator", "RI"]),
    ("Sentence_Terminal", ["Sentence_Terminal", "STerm"]),
    ("Soft_Dotted", ["Soft_Dotted", "SD"]),
    ("Terminal_Punctuation", ["Terminal_Punctuation", "Term"]),
    ("Unified_Ideograph", ["Unified_Ideograph", "UIdeo"]),
    ("Uppercase", ["Uppercase", "Upper"]),
    ("Variation_Selector", ["Variation_Selector", "VS"]),
    ("White_Space", ["White_Space", "WSpace", "space"]),
    ("XID_Continue", ["XID_Continue", "XIDC"]),
    ("XID_Start", ["XID_Start", "XIDS"])]

/-- The characters that have each yes-or-no property, by canonical name. -/
def binaryTables : List (String × RangeTable) :=
  binaryTables1 ++ binaryTables2 ++ binaryTables3

end LaunchBench.Pattern.Unicode
