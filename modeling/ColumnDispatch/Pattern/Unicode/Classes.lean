import ColumnDispatch.Pattern.Tree
import ColumnDispatch.Pattern.Unicode.Age
import ColumnDispatch.Pattern.Unicode.Binary
import ColumnDispatch.Pattern.Unicode.GeneralCategory
import ColumnDispatch.Pattern.Unicode.Script
import ColumnDispatch.Pattern.Unicode.ScriptExtension
import ColumnDispatch.Pattern.Unicode.Segmentation

/-! Properties of characters by name. A name alone is looked for among the binary properties, then
the general categories, then the scripts; a name and a value are a property with several values.
Case, spaces, dashes and a leading "is" make no difference to a name. -/

namespace ColumnDispatch.Pattern.Unicode

/-! ### Sets of the tables -/

/-- The code points of one of the named properties of a table. -/
def rangesOf (table : List Property) (name : String) : Ranges :=
  ((Property.find? table name).map (·.ranges)).getD ⟨#[]⟩

def alphabetic : Ranges := rangesOf binaryProperties "alpha"

def joinControls : Ranges := rangesOf binaryProperties "joinc"

def whiteSpace : Ranges := rangesOf binaryProperties "wspace"

/-- Whether the character is in one of the sets. -/
def inAny (sets : List Ranges) (c : Char) : Bool := sets.any (·.contains c.toNat)

def category (name : String) : Ranges := rangesOf generalCategories name

def decimalDigits : Ranges := category "nd"

def marks : List Ranges := [category "mn", category "mc", category "me"]

def numbers : List Ranges := [decimalDigits, category "nl", category "no"]

/-- Letters, marks, decimal digits, connecting punctuation and joining controls. -/
def wordSets : List Ranges := alphabetic :: decimalDigits :: category "pc" :: joinControls :: marks

def isAlphabetic (c : Char) : Bool := alphabetic.contains c.toNat

def isNumeric (c : Char) : Bool := inAny numbers c

def isDigit (c : Char) : Bool := decimalDigits.contains c.toNat

def isSpace (c : Char) : Bool := whiteSpace.contains c.toNat

def isWord (c : Char) : Bool := inAny wordSets c

/-! ### Names -/

/-- A name in its plain form. The abbreviation `isc` begins with "is" by chance. -/
def plainName (name : String) : String :=
  let text := name.toList
  let startsWithIs := (text.take 2).map Char.toLower = ['i', 's']
  let kept := (if startsWithIs then text.drop 2 else text).filter fun c =>
    c.toNat < 128 && c != ' ' && c != '_' && c != '-'
  let plain := kept.map Char.toLower
  if startsWithIs && plain = ['c'] then "isc" else String.ofList plain

/-- The groups of general categories. -/
def categoryGroups : List (List String × List String) :=
  [(["c", "other"], ["cc", "cf", "cn", "co", "cs"]),
   (["l", "letter"], ["ll", "lm", "lo", "lt", "lu"]),
   (["lc", "casedletter"], ["ll", "lt", "lu"]),
   (["m", "mark", "combiningmark"], ["mc", "me", "mn"]),
   (["n", "number"], ["nd", "nl", "no"]),
   (["p", "punctuation", "punct"], ["pc", "pd", "pe", "pf", "pi", "po", "ps"]),
   (["s", "symbol"], ["sc", "sk", "sm", "so"]),
   (["z", "separator"], ["zl", "zp", "zs"])]

def category? (name : String) : Option (List Ranges) :=
  match name with
  | "any" => some [⟨#[(0, 0x10FFFF)]⟩]
  | "ascii" => some [⟨#[(0, 0x7F)]⟩]
  | "assigned" => some ((generalCategories.filter (!·.names.contains "cn")).map (·.ranges))
  | _ =>
    match categoryGroups.find? (·.1.contains name) with
    | some (_, members) => some (members.map category)
    | none => (Property.find? generalCategories name).map ([·.ranges])

/-- One of the properties of a table. -/
def value? (table : List Property) (name : String) : Option (List Ranges) :=
  (Property.find? table name).map ([·.ranges])

/-- The scripts that use a character; for most scripts those are the script's own characters. -/
def scriptExtension? (name : String) : Option (List Ranges) :=
  (value? scriptExtensions name).or (value? scripts name)

/-- What was assigned in a version or an earlier one. -/
def age? (version : String) : Option (List Ranges) :=
  let earlier := ages.takeWhile (!·.names.contains version)
  (Property.find? ages version).map fun p => p.ranges :: earlier.map (·.ranges)

/-! ### Lookup -/

inductive LookupFault where
  | property | value
  deriving DecidableEq, Repr

/-- The properties with several values that can be asked for. -/
def valuedProperties : List (List String × (String → Option (List Ranges))) :=
  [(["gc", "generalcategory"], category?),
   (["sc", "script"], value? scripts),
   (["scx", "scriptextensions"], scriptExtension?),
   (["age"], age?),
   (["gcb", "graphemeclusterbreak"], value? graphemeBreaks),
   (["wb", "wordbreak"], value? wordBreaks),
   (["sb", "sentencebreak"], value? sentenceBreaks)]

/-- Names of properties that no set belongs to. -/
def otherPropertyNames : List String :=
  ["bc", "bidiclass", "bidimirroringglyph", "bidipairedbracket", "bidipairedbrackettype", "blk",
   "block", "bmg", "bpb", "bpt", "canonicalcombiningclass", "casefolding", "ccc", "ce", "cf",
   "changeswhennfkccasefolded", "compex", "compositionexclusion", "cwkcf", "decompositionmapping",
   "decompositiontype", "dm", "dt", "ea", "eastasianwidth", "equideo",
   "equivalentunifiedideograph", "expandsonnfc", "expandsonnfd", "expandsonnfkc", "expandsonnfkd",
   "fcnfkc", "fcnfkcclosure", "fullcompositionexclusion", "hangulsyllabletype", "hst",
   "indicpositionalcategory", "indicsyllabiccategory", "inpc", "insc", "isc", "isocomment",
   "jamoshortname", "jg", "joininggroup", "joiningtype", "jsn", "jt", "lb", "lc", "linebreak",
   "lowercasemapping", "na", "na1", "name", "namealias", "nfcqc", "nfcquickcheck", "nfdqc",
   "nfdquickcheck", "nfkccasefold", "nfkccf", "nfkcqc", "nfkcquickcheck", "nfkdqc",
   "nfkdquickcheck", "nt", "numerictype", "numericvalue", "nv", "oalpha", "odi", "ogrext", "oidc",
   "oids", "olower", "omath", "otheralphabetic", "otherdefaultignorablecodepoint",
   "othergraphemeextend", "otheridcontinue", "otheridstart", "otherlowercase", "othermath",
   "otheruppercase", "oupper", "scf", "sfc", "simplecasefolding", "simplelowercasemapping",
   "simpletitlecasemapping", "simpleuppercasemapping", "slc", "stc", "suc", "tc",
   "titlecasemapping", "uc", "unicode1name", "uppercasemapping", "verticalorientation", "vo",
   "xonfc", "xonfd", "xonfkc", "xonfkd"]

/-- Names of scripts that no set belongs to. -/
def otherScriptNames : List String := ["hrkt", "katakanaorhiragana", "zzzz", "unknown"]

/-- The sets that make up a property that stands alone. -/
def lookupNamed (name : String) : Except LookupFault (List Ranges) :=
  let isOther := valuedProperties.any (·.1.contains name) || otherPropertyNames.contains name
  -- these three are abbreviations of categories as well
  let isCategory := ["cf", "sc", "lc"].contains name
  match value? binaryProperties name with
  | some sets => .ok sets
  | none =>
    if isOther && !isCategory then .error .property
    else
      match (category? name).or (value? scripts name) with
      | some sets => .ok sets
      | none => .error (if otherScriptNames.contains name then .value else .property)

/-- The sets that make up a value of a property. -/
def lookupValue (name value : String) : Except LookupFault (List Ranges) :=
  match valuedProperties.find? (·.1.contains name) with
  | some (_, sets?) =>
    match sets? value with
    | some sets => .ok sets
    | none => .error .value
  | none =>
    let isKnown := otherPropertyNames.contains name || (value? binaryProperties name).isSome
    .error (if isKnown then .value else .property)

/-- The sets that make up what a query asks for. -/
def lookup : PropertyQuery → Except LookupFault (List Ranges)
  | .named name => lookupNamed (plainName name)
  | .valued name value => lookupValue (plainName name) (plainName value)

end ColumnDispatch.Pattern.Unicode
