import ValueSchema.Pattern.Regex
import ValueSchema.Text.Blank
import ValueSchema.Text.CategoryTable
import ValueSchema.Text.FoldingTable
import ValueSchema.Text.PropertyTable
import ValueSchema.Text.ScriptTable

/-!
Classes of characters that patterns name.

Names of properties are taken without regard to case, blanks, underscores and hyphens, and without a leading `is`.
-/

namespace ValueSchema.CharSet

open Text

def digit : CharSet := digitChars.contains

def space : CharSet := isBlank

def word : CharSet := wordChars.contains

def isAscii (c : Char) : Bool := c.toNat < 128

/-- the members of a class that are ASCII -/
def asciiOnly (s : CharSet) : CharSet := fun c => isAscii c && s c

def compl (s : CharSet) : CharSet := fun c => !s c

def union (s t : CharSet) : CharSet := fun c => s c || t c

def inter (s t : CharSet) : CharSet := fun c => s c && t c

def diff (s t : CharSet) : CharSet := fun c => s c && !t c

def symmDiff (s t : CharSet) : CharSet := fun c => s c != t c

def range (low high : Char) : CharSet := fun c => low ≤ c && c ≤ high

/-- with all cases of each member -/
def foldCase (s : CharSet) : CharSet := fun c => s c || (allCases c).any s

/-- one character in all its cases -/
def caseless (c : Char) : CharSet :=
  let cases := allCases c
  cases.contains

/-- with both cases of each ASCII letter -/
def foldAsciiCase (s : CharSet) : CharSet := fun c => s c || s c.toLower || s c.toUpper

/-- ASCII classes by name -/
def ofAsciiName? : String → Option CharSet
  | "alnum" => some Char.isAlphanum
  | "alpha" => some Char.isAlpha
  | "ascii" => some isAscii
  | "blank" => some fun c => c = '\t' || c = ' '
  | "cntrl" => some fun c => c.toNat < 32 || c.toNat = 127
  | "digit" => some Char.isDigit
  | "graph" => some (range '!' '~')
  | "lower" => some Char.isLower
  | "print" => some (range ' ' '~')
  | "punct" => some (inter (range '!' '~') (compl Char.isAlphanum))
  | "space" => some (asciiOnly isBlank)
  | "upper" => some Char.isUpper
  | "word" => some fun c => c.isAlphanum || c = '_'
  | "xdigit" => some fun c => c.isDigit || range 'a' 'f' c || range 'A' 'F' c
  | _ => none

/-- names of categories, each with the short names of what it holds -/
def categoryNames : List (List String × List String) := [
  (["l", "letter"], ["lu", "ll", "lt", "lm", "lo"]),
  (["lc", "casedletter"], ["lu", "ll", "lt"]),
  (["lu", "uppercaseletter"], ["lu"]),
  (["ll", "lowercaseletter"], ["ll"]),
  (["lt", "titlecaseletter"], ["lt"]),
  (["lm", "modifierletter"], ["lm"]),
  (["lo", "otherletter"], ["lo"]),
  (["m", "mark", "combiningmark"], ["mn", "mc", "me"]),
  (["mn", "nonspacingmark"], ["mn"]),
  (["mc", "spacingmark"], ["mc"]),
  (["me", "enclosingmark"], ["me"]),
  (["n", "number"], ["nd", "nl", "no"]),
  (["nd", "decimalnumber", "digit"], ["nd"]),
  (["nl", "letternumber"], ["nl"]),
  (["no", "othernumber"], ["no"]),
  (["p", "punctuation", "punct"], ["pc", "pd", "ps", "pe", "pi", "pf", "po"]),
  (["pc", "connectorpunctuation"], ["pc"]),
  (["pd", "dashpunctuation"], ["pd"]),
  (["ps", "openpunctuation"], ["ps"]),
  (["pe", "closepunctuation"], ["pe"]),
  (["pi", "initialpunctuation"], ["pi"]),
  (["pf", "finalpunctuation"], ["pf"]),
  (["po", "otherpunctuation"], ["po"]),
  (["s", "symbol"], ["sm", "sc", "sk", "so"]),
  (["sm", "mathsymbol"], ["sm"]),
  (["sc", "currencysymbol"], ["sc"]),
  (["sk", "modifiersymbol"], ["sk"]),
  (["so", "othersymbol"], ["so"]),
  (["z", "separator"], ["zs", "zl", "zp"]),
  (["zs", "spaceseparator"], ["zs"]),
  (["zl", "lineseparator"], ["zl"]),
  (["zp", "paragraphseparator"], ["zp"]),
  (["cc", "control", "cntrl"], ["cc"]),
  (["cf", "format"], ["cf"]),
  (["co", "privateuse"], ["co"]),
  (["cs", "surrogate"], [])]

/-- the short names of all categories -/
def allCategories : List String := categories.map Prod.fst

/-- the characters of a category -/
def ofCategory? (name : String) : Option CharSet :=
  match name with
  | "any" => some fun _ => true
  | "assigned" => some (isOfCategory allCategories)
  | "ascii" => some isAscii
  | "cn" => some (compl (isOfCategory allCategories))
  | "unassigned" => some (compl (isOfCategory allCategories))
  | "c" => some other
  | "other" => some other
  | _ => (categoryNames.find? fun e => e.1.contains name).map fun e => isOfCategory e.2
where
  other : CharSet := fun c => isOfCategory ["cc", "cf", "co"] c || !isOfCategory allCategories c

/-- the characters of a script -/
def ofScript? (name : String) : Option CharSet := (script? name).map Ranges.contains

/-- the characters with a property -/
def ofProperty? (name : String) : Option CharSet :=
  if ["space", "wspace", "whitespace"].contains name then some isBlank
  else (property? name).map Ranges.contains

/-- a name without what does not count in it -/
def looseName (cs : List Char) : String :=
  let isDropped := match cs with
    | a :: b :: _ => a.toLower = 'i' && b.toLower = 's'
    | _ => false
  let kept := ((if isDropped then cs.drop 2 else cs).filter fun c => isAscii c && !" _-".toList.contains c).map Char.toLower
  if isDropped && kept = ['c'] then "isc" else String.ofList kept

/-- the characters of a property, category or script, the first of these that has the name -/
def ofName? (cs : List Char) : Option CharSet :=
  let name := looseName cs
  if ["cf", "sc", "lc"].contains name then ofCategory? name
  else ofProperty? name <|> ofCategory? name <|> ofScript? name

/-- the characters that have a value of a property which takes several -/
def ofValue? (property value : List Char) : Option CharSet :=
  let name := looseName property
  if ["gc", "generalcategory"].contains name then ofCategory? (looseName value)
  else if ["sc", "script", "scx", "scriptextensions"].contains name then ofScript? (looseName value)
  else none

end ValueSchema.CharSet
