import LaunchBench.Pattern.Class
import LaunchBench.Pattern.Syntax
import LaunchBench.Pattern.Unicode.Category
import LaunchBench.Pattern.Unicode.Script
import LaunchBench.Pattern.Unicode.ScriptExtension
import LaunchBench.Pattern.Unicode.Binary
import LaunchBench.Pattern.Unicode.Age
import LaunchBench.Pattern.Unicode.Boundary
/-!
Unicode properties named in patterns.

A class such as `\p{Greek}`, `\pL` or `\p{gc=Lu}` names a property loosely:
case, blanks, underscores and hyphens do not matter, a leading `is` is
ignored, and characters outside ASCII are dropped. A bare name is looked up
as a yes-or-no property, then as a general category, then as a script;
`cf`, `sc` and `lc` skip the first step, being general categories here. A
property with a value, such as `sc=Greek`, may be a general category, a
script, script extensions, an age, or a grapheme cluster, word or sentence
break class.

A name that is known but has no characters in this database, such as the
surrogate category or the `Unknown` script, is refused like an unknown one.
-/

namespace LaunchBench.Pattern

/-- The loose form of a property name: without a leading `is`, blanks, underscores and
hyphens, in lower case, ASCII only. -/
def looseName (s : String) : String :=
  let cs := s.toList
  let (isPrefix, rest) := match cs with
    | a :: b :: more => if (a = 'i' || a = 'I') && (b = 's' || b = 'S') then (true, more) else (false, cs)
    | _ => (false, cs)
  let kept := (rest.filter fun c => c ≠ ' ' && c ≠ '_' && c ≠ '-' && c.toNat < 128).map Char.toLower
  -- "isc" is the short name of a category, not "c" with a prefix
  if isPrefix && kept = ['c'] then "isc" else String.ofList kept

/-- The canonical name whose names include `v` in loose form. -/
def canonicalIn (names : List (String × List String)) (v : String) : Option String :=
  (names.find? fun (_, aliases) => aliases.any (looseName · == v)).map (·.1)

/-- The table of a canonical name. -/
def tableIn (tables : List (String × Text.RangeTable)) (canon : String) : Option CharClass :=
  (tables.find? (·.1 == canon)).map fun (_, t) => CharClass.ofTable t

/-- The two-letter categories of each general category, under its loose names. The
surrogate category is known but has no characters. -/
def categoryNames : List (List String × List String) :=
  [(["c", "other"], ["Cc", "Cf", "Co", "Cn"]), (["cc", "control", "cntrl"], ["Cc"]),
    (["cf", "format"], ["Cf"]), (["cn", "unassigned"], ["Cn"]), (["co", "privateuse"], ["Co"]),
    (["cs", "surrogate"], []), (["l", "letter"], ["Lu", "Ll", "Lt", "Lm", "Lo"]),
    (["lc", "casedletter", "l&"], ["Lu", "Ll", "Lt"]), (["ll", "lowercaseletter"], ["Ll"]),
    (["lm", "modifierletter"], ["Lm"]), (["lo", "otherletter"], ["Lo"]),
    (["lt", "titlecaseletter"], ["Lt"]), (["lu", "uppercaseletter"], ["Lu"]),
    (["m", "mark", "combiningmark"], ["Mn", "Mc", "Me"]), (["mc", "spacingmark"], ["Mc"]),
    (["me", "enclosingmark"], ["Me"]), (["mn", "nonspacingmark"], ["Mn"]),
    (["n", "number"], ["Nd", "Nl", "No"]), (["nd", "decimalnumber", "digit"], ["Nd"]),
    (["nl", "letternumber"], ["Nl"]), (["no", "othernumber"], ["No"]),
    (["p", "punctuation", "punct"], ["Pc", "Pd", "Ps", "Pe", "Pi", "Pf", "Po"]),
    (["pc", "connectorpunctuation"], ["Pc"]), (["pd", "dashpunctuation"], ["Pd"]),
    (["pe", "closepunctuation"], ["Pe"]), (["pf", "finalpunctuation"], ["Pf"]),
    (["pi", "initialpunctuation"], ["Pi"]), (["po", "otherpunctuation"], ["Po"]),
    (["ps", "openpunctuation"], ["Ps"]), (["s", "symbol"], ["Sm", "Sc", "Sk", "So"]),
    (["sc", "currencysymbol"], ["Sc"]), (["sk", "modifiersymbol"], ["Sk"]),
    (["sm", "mathsymbol"], ["Sm"]), (["so", "othersymbol"], ["So"]),
    (["z", "separator"], ["Zs", "Zl", "Zp"]), (["zl", "lineseparator"], ["Zl"]),
    (["zp", "paragraphseparator"], ["Zp"]), (["zs", "spaceseparator"], ["Zs"])]

/-- The unassigned code points. -/
def unassigned : CharClass := CharClass.ofTable (Unicode.categoryTable "Cn")

/-- A general category by loose name: `none` if the name is unknown, `some none` if it
is known but has no characters. -/
def categoryClass? (v : String) : Option (Option CharClass) :=
  if v = "any" then some (some (CharClass.ofRange 0 maxCodePoint))
  else if v = "assigned" then some (some unassigned.negate)
  else if v = "ascii" then some (some (CharClass.ofRange 0 127))
  else (categoryNames.find? (·.1.contains v)).map fun (_, cats) =>
    if cats.isEmpty then none
    else some (CharClass.unionAll (cats.map fun c => CharClass.ofTable (Unicode.categoryTable c)))

/-- The characters of a script given by its loose name, if it has a table. -/
def scriptClass? (v : String) : Option (Option CharClass) :=
  (canonicalIn Unicode.scriptNames v).map (tableIn Unicode.scriptTables)

/-- The characters of a yes-or-no property given by its loose name. -/
def binaryClass? (v : String) : Option CharClass :=
  (canonicalIn Unicode.binaryNames v).bind (tableIn Unicode.binaryTables)

/-- The characters assigned in a version or before it, given its loose name. -/
def ageClass? (v : String) : Option CharClass :=
  (canonicalIn Unicode.ageNames v).map fun canon =>
    let upTo := (Unicode.ageTables.findIdx? (·.1 == canon)).getD 0
    CharClass.unionAll ((Unicode.ageTables.take (upTo + 1)).map fun (_, t) => CharClass.ofTable t)

/-- The value of a property with a table for each value, given its loose name. -/
def valueClass? (names : List (String × List String)) (tables : List (String × Text.RangeTable))
    (v : String) : Option CharClass :=
  (canonicalIn names v).bind (tableIn tables)

/-- Fails with `k` when there is no class. -/
def orFail (k : ErrorKind) : Option CharClass → Except ErrorKind CharClass
  | some c => .ok c
  | none => .error k

/-- The class a bare property name stands for. -/
def namedClass (name : String) : Except ErrorKind CharClass :=
  let v := looseName name
  match (if v = "cf" || v = "sc" || v = "lc" then none else binaryClass? v) with
  | some c => .ok c
  | none =>
    match categoryClass? v with
    | some c => orFail .unicodePropertyValueNotFound c
    | none =>
      match scriptClass? v with
      | some c => orFail .unicodePropertyValueNotFound c
      | none => .error .unicodePropertyNotFound

/-- The class a property and a value stand for. -/
def valuedClass (name value : String) : Except ErrorKind CharClass :=
  let p := looseName name
  let v := looseName value
  let byValue (found : Option (Option CharClass)) : Except ErrorKind CharClass :=
    match found with
    | some (some c) => .ok c
    | _ => .error .unicodePropertyValueNotFound
  if p = "gc" || p = "generalcategory" then byValue (categoryClass? v)
  else if p = "sc" || p = "script" then byValue (scriptClass? v)
  else if p = "scx" || p = "scriptextensions" then
    byValue ((canonicalIn Unicode.scriptNames v).map (tableIn Unicode.scriptExtensionTables))
  else if p = "age" then orFail .unicodePropertyValueNotFound (ageClass? v)
  else if p = "gcb" || p = "graphemeclusterbreak" then
    orFail .unicodePropertyValueNotFound
      (valueClass? Unicode.graphemeBreakNames Unicode.graphemeBreakTables v)
  else if p = "wb" || p = "wordbreak" then
    orFail .unicodePropertyValueNotFound (valueClass? Unicode.wordBreakNames Unicode.wordBreakTables v)
  else if p = "sb" || p = "sentencebreak" then
    orFail .unicodePropertyValueNotFound
      (valueClass? Unicode.sentenceBreakNames Unicode.sentenceBreakTables v)
  else .error .unicodePropertyNotFound

/-- The characters of the `White_Space` property. -/
def whiteSpace : CharClass := ((binaryClass? "whitespace").getD CharClass.empty)

/-- The decimal digits: the general category `Nd`. -/
def decimalDigits : CharClass := CharClass.ofTable (Unicode.categoryTable "Nd")

/-- The class a property query names, and whether the query itself negates it (`!=`). -/
def propertyClass (q : UnicodeQuery) : Except ErrorKind (CharClass × Bool) :=
  match q with
  | .oneLetter c => (namedClass (String.singleton c)).map (·, false)
  | .named name => (namedClass name).map (·, false)
  | .namedValue name value negate => (valuedClass name value).map (·, negate)

end LaunchBench.Pattern
