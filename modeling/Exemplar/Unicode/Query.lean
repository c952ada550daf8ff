import Exemplar.CharSet
import Exemplar.Unicode.Age
import Exemplar.Unicode.Break.Sentence
import Exemplar.Unicode.Contributory
import Exemplar.Unicode.ScriptExtension

/-!
# Asking for characters by property

A class of characters is asked for by one name, which is a yes-or-no property,
a general category or a script, tried in this order, or by the name of a
property and a value. Names are compared without case, blanks, underlines,
hyphens and a leading `is`.
-/

namespace Exemplar.Unicode

/-- A name as the tables have it. What is not basic text does not count. -/
def normalize (name : String) : String :=
  let lower := name.toList.map Char.toLower
  let plain := lower.filter fun c => c.toNat < 0x80 && c ≠ ' ' && c ≠ '_' && c ≠ '-'
  if lower.take 2 = ['i', 's'] then
    let rest := (lower.drop 2).filter fun c => c.toNat < 0x80 && c ≠ ' ' && c ≠ '_' && c ≠ '-'
    String.ofList (if rest = ['c'] then ['i', 's', 'c'] else rest)
  else String.ofList plain

inductive Query where
  | name (name : String)
  | value (property : String) (value : String)
deriving DecidableEq, Repr

inductive Unknown where
  | property
  | value
deriving DecidableEq, Repr

namespace Query

/-- The general categories and what is asked for like one. The surrogates are
a category without characters. -/
def category? (name : String) : Option (Except Unknown CharSet) :=
  if name = "any" then some (.ok (.range '\x00' lastChar))
  else if name = "ascii" then some (.ok (.range '\x00' '\x7f'))
  else if name = "assigned" then
    (Category.find? "cn").map fun points => .ok (CharSet.ofCodePoints points).compl
  else if name = "cs" ∨ name = "surrogate" then some (.error .value)
  else (Category.find? name).map fun points => .ok (.ofCodePoints points)

def emptyScripts : List String := ["zzzz", "unknown", "hrkt", "katakanaorhiragana"]

/-- The scripts, with the characters that `find?` gives them. -/
def script? (find? : String → Option CodePoints) (name : String) :
    Option (Except Unknown CharSet) :=
  if name ∈ emptyScripts then some (.error .value)
  else (find? name).map fun points => .ok (.ofCodePoints points)

/-- Properties that have values, but none that can be asked for. -/
def otherProperties : List String := [
  "bc", "bidiclass", "bidimirroringglyph", "bidipairedbracket", "bidipairedbrackettype", "blk",
  "block", "bmg", "bpb", "bpt", "canonicalcombiningclass", "casefolding", "ccc", "ce", "cf",
  "changeswhennfkccasefolded", "cjkaccountingnumeric", "cjkcompatibilityvariant", "cjkiicore",
  "cjkirggsource", "cjkirghsource", "cjkirgjsource", "cjkirgkpsource", "cjkirgksource",
  "cjkirgmsource", "cjkirgssource", "cjkirgtsource", "cjkirguksource", "cjkirgusource",
  "cjkirgvsource", "cjkothernumeric", "cjkprimarynumeric", "cjkrsunicode", "compex",
  "compositionexclusion", "cwkcf", "decompositionmapping", "decompositiontype", "dm", "dt", "ea",
  "eastasianwidth", "equideo", "equivalentunifiedideograph", "expandsonnfc", "expandsonnfd",
  "expandsonnfkc", "expandsonnfkd", "fcnfkc", "fcnfkcclosure", "fullcompositionexclusion",
  "hangulsyllabletype", "hst", "incb", "indicconjunctbreak", "indicpositionalcategory",
  "indicsyllabiccategory", "inpc", "insc", "isc", "isocomment", "jamoshortname", "jg",
  "joininggroup", "joiningtype", "jsn", "jt", "kaccountingnumeric", "kcompatibilityvariant",
  "kehcat", "kehdesc", "kehhg", "kehifao", "kehjsesh", "kehnomirror", "kehnorotate", "kiicore",
  "kirggsource", "kirghsource", "kirgjsource", "kirgkpsource", "kirgksource", "kirgmsource",
  "kirgssource", "kirgtsource", "kirguksource", "kirgusource", "kirgvsource", "kothernumeric",
  "kprimarynumeric", "krsunicode", "lb", "lc", "linebreak", "lowercasemapping", "na", "na1", "name",
  "namealias", "nfcqc", "nfcquickcheck", "nfdqc", "nfdquickcheck", "nfkccasefold", "nfkccf",
  "nfkcqc", "nfkcquickcheck", "nfkcscf", "nfkcsimplecasefold", "nfkdqc", "nfkdquickcheck", "nt",
  "numerictype", "numericvalue", "nv", "scf", "sfc", "simplecasefolding", "simplelowercasemapping",
  "simpletitlecasemapping", "simpleuppercasemapping", "slc", "stc", "suc", "tc", "titlecasemapping",
  "uc", "unicode1name", "unicoderadicalstroke", "uppercasemapping", "urs", "verticalorientation",
  "vo", "xonfc", "xonfd", "xonfkc", "xonfkd"]

def valued : List (List String × (String → Option CodePoints)) := [
  (["age"], Age.find?),
  (["gcb", "graphemeclusterbreak"], GraphemeBreak.find?),
  (["sb", "sentencebreak"], SentenceBreak.find?),
  (["wb", "wordbreak"], WordBreak.find?)]

def property? (name : String) : Option CodePoints :=
  Property.find? name <|> Contributory.find? name

def isProperty (name : String) : Bool := otherProperties.contains name || (property? name).isSome

def find : Query → Except Unknown CharSet
  | .name asked =>
    let name := normalize asked
    let set? := (property? name).map fun points =>
      Except.ok (ε := Unknown) (CharSet.ofCodePoints points)
    (set? <|> category? name <|> script? Script.find? name).getD (.error .property)
  | .value asked askedValue =>
    let property := normalize asked
    let value := normalize askedValue
    if property = "gc" ∨ property = "generalcategory" then
      (category? value).getD (.error .value)
    else if property = "sc" ∨ property = "script" then
      (script? Script.find? value).getD (.error .value)
    else if property = "scx" ∨ property = "scriptextensions" then
      (script? ScriptExtension.find? value).getD (.error .value)
    else
      match valued.find? (·.1.contains property) with
      | some (_, find?) => ((find? value).map fun points => .ok (.ofCodePoints points)).getD
        (.error .value)
      | none => .error (if isProperty property then .value else .property)

end Query

end Exemplar.Unicode
