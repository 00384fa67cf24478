import AdFilter.Regex.CharSet
import AdFilter.Regex.Node
import AdFilter.Regex.Reading
import AdFilter.Unicode.Age
import AdFilter.Unicode.Casing
import AdFilter.Unicode.Contributory
import AdFilter.Unicode.Property
import AdFilter.Unicode.Script
import AdFilter.Unicode.ScriptExtension
import AdFilter.Unicode.Segmentation

/-! # Unicode properties by name

Names are compared loosely: case, spaces, hyphens, underscores and a leading "is" do not count. A
bare name is a property, a general category or a script, in this order.
-/

namespace AdFilter.Regex

open AdFilter.Text AdFilter.Unicode

/-- The part of a name that counts. -/
def looseName (name : List Char) : String :=
  let solid (cs : List Char) : List Char :=
    (cs.filter fun c => isAscii c && c != ' ' && c != '_' && c != '-').map Char.toLower
  match name with
  | i :: s :: rest =>
    if i.toLower = 'i' ∧ s.toLower = 's' then
      if solid rest = ['c'] then "isc" else String.ofList (solid rest)
    else String.ofList (solid name)
  | _ => String.ofList (solid name)

/-- The union of the general categories of the given names. -/
def categoriesNamed (names : List String) : CharSet :=
  CharSet.unions (names.map (CharSet.named categories))

/-- Letters, marks, numbers, punctuation, symbols and separators. -/
def visibleCategories : List String :=
  ["lu", "ll", "lt", "lm", "lo", "mn", "mc", "me", "nd", "nl", "no", "pc", "pd", "ps", "pe",
    "pi", "pf", "po", "sm", "sc", "sk", "so", "zs", "zl", "zp"]

/-- The categories that are made of several others. -/
def categoryGroups : List (List String × CharSet) :=
  let assigned := categoriesNamed (visibleCategories ++ ["cc", "cf", "co"])
  [(["any"], .all), (["ascii"], .range '\x00' '\x7F'), (["assigned"], assigned),
    (["cn", "unassigned"], .compl assigned),
    (["c", "other"], .compl (categoriesNamed visibleCategories)),
    (["l", "letter"], categoriesNamed ["lu", "ll", "lt", "lm", "lo"]),
    (["lc", "casedletter"], categoriesNamed ["lu", "ll", "lt"]),
    (["m", "mark", "combiningmark"], categoriesNamed ["mn", "mc", "me"]),
    (["n", "number"], categoriesNamed ["nd", "nl", "no"]),
    (["p", "punctuation", "punct"],
      categoriesNamed ["pc", "pd", "ps", "pe", "pi", "pf", "po"]),
    (["s", "symbol"], categoriesNamed ["sm", "sc", "sk", "so"]),
    (["z", "separator"], categoriesNamed ["zs", "zl", "zp"])]

/-- The union of the tables of a name, if there is one. -/
def tablesNamed? (tables : List Table) (name : String) : Option CharSet :=
  if (Table.named tables name).isEmpty then none else some (CharSet.named tables name)

def category? (name : String) : Option (Except Fault CharSet) :=
  if name = "cs" ∨ name = "surrogate" then some (.error .propertyValueUnknown)
  else
    ((tablesNamed? categories name).or
      ((categoryGroups.find? (·.1.contains name)).map (·.2))).map .ok

def script? (name : String) : Option (Except Fault CharSet) :=
  if emptyScripts.contains name then some (.error .propertyValueUnknown)
  else (tablesNamed? scripts name).map .ok

def scriptExtension? (name : String) : Option (Except Fault CharSet) :=
  (script? name).map fun own => own.map fun own =>
    .union (.diff own (CharSet.named scriptMovers name)) (CharSet.named scriptGuests name)

/-- The characters that a binary property of the name holds of. -/
def binary? (name : String) : Option CharSet :=
  if name = "cf" ∨ name = "sc" ∨ name = "lc" then none
  else
    [casingProperties, identifierProperties, otherProperties, contributoryProperties].findSome?
      (tablesNamed? · name)

/-- The characters assigned in the version of Unicode of the name or in one before it. -/
def age? (version : String) : Option CharSet :=
  let before := ages.takeWhile fun t => !t.names.contains version
  if before.length < ages.length then
    some (CharSet.unions ((ages.take (before.length + 1)).map (.table ·.ranges)))
  else none

/-- The names of the properties without a table: those of other kinds of values, and some binary
ones. -/
def otherPropertyNames : List String :=
  ["bidiclass", "bc", "bidimirroringglyph", "bmg", "bidipairedbracket", "bpb",
    "bidipairedbrackettype", "bpt", "block", "blk", "canonicalcombiningclass", "ccc", "casefolding",
    "cf", "changeswhennfkccasefolded", "cwkcf", "cjkaccountingnumeric", "kaccountingnumeric",
    "cjkcompatibilityvariant", "kcompatibilityvariant", "cjkiicore", "kiicore", "cjkirggsource",
    "kirggsource", "cjkirghsource", "kirghsource", "cjkirgjsource", "kirgjsource", "cjkirgkpsource",
    "kirgkpsource", "cjkirgksource", "kirgksource", "cjkirgmsource", "kirgmsource", "cjkirgssource",
    "kirgssource", "cjkirgtsource", "kirgtsource", "cjkirguksource", "kirguksource",
    "cjkirgusource", "kirgusource", "cjkirgvsource", "kirgvsource", "cjkothernumeric",
    "kothernumeric", "cjkprimarynumeric", "kprimarynumeric", "compositionexclusion", "ce",
    "decompositionmapping", "dm", "decompositiontype", "dt", "eastasianwidth", "ea",
    "equivalentunifiedideograph", "equideo", "expandsonnfc", "xonfc", "expandsonnfd", "xonfd",
    "expandsonnfkc", "xonfkc", "expandsonnfkd", "xonfkd", "fcnfkcclosure", "fcnfkc",
    "fullcompositionexclusion", "compex", "hangulsyllabletype", "hst", "indicconjunctbreak", "incb",
    "indicpositionalcategory", "inpc", "indicsyllabiccategory", "insc", "jamoshortname", "jsn",
    "joininggroup", "jg", "joiningtype", "jt", "kehcat", "kehdesc", "kehhg", "kehifao", "kehjsesh",
    "kehnomirror", "kehnorotate", "linebreak", "lb", "lowercasemapping", "lc", "name", "na",
    "namealias", "nfcquickcheck", "nfcqc", "nfdquickcheck", "nfdqc", "nfkccasefold", "nfkccf",
    "nfkcquickcheck", "nfkcqc", "nfkcsimplecasefold", "nfkcscf", "nfkdquickcheck", "nfkdqc",
    "numerictype", "nt", "numericvalue", "nv", "ocomment", "isc", "simplecasefolding", "scf", "sfc",
    "simplelowercasemapping", "slc", "simpletitlecasemapping", "stc", "simpleuppercasemapping",
    "suc", "titlecasemapping", "tc", "unicode1name", "na1", "unicoderadicalstroke", "cjkrsunicode",
    "krsunicode", "urs", "uppercasemapping", "uc", "verticalorientation", "vo"]

/-- The characters for which a property has a value. -/
def propertyValue (property value : String) : Except Fault CharSet :=
  if property = "gc" ∨ property = "generalcategory" then
    (category? value).getD (.error .propertyValueUnknown)
  else if property = "sc" ∨ property = "script" then
    (script? value).getD (.error .propertyValueUnknown)
  else if property = "scx" ∨ property = "scriptextensions" then
    (scriptExtension? value).getD (.error .propertyValueUnknown)
  else if property = "age" then
    (age? value).elim (.error .propertyValueUnknown) .ok
  else if property = "gcb" ∨ property = "graphemeclusterbreak" then
    (tablesNamed? graphemeBreaks value).elim (.error .propertyValueUnknown) .ok
  else if property = "sb" ∨ property = "sentencebreak" then
    (tablesNamed? sentenceBreaks value).elim (.error .propertyValueUnknown) .ok
  else if property = "wb" ∨ property = "wordbreak" then
    (tablesNamed? wordBreaks value).elim (.error .propertyValueUnknown) .ok
  else if (binary? property).isSome ∨ otherPropertyNames.contains property then
    .error .propertyValueUnknown
  else .error .propertyUnknown

def PropertyQuery.resolve : PropertyQuery → Except Fault CharSet
  | .bare name =>
    let name := looseName name
    match binary? name with
    | some s => .ok s
    | none => ((category? name).or (script? name)).getD (.error .propertyUnknown)
  | .valued property value => propertyValue (looseName property) (looseName value)

end AdFilter.Regex
