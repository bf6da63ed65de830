import Patternwork.Unicode.AgeData
import Patternwork.Unicode.BreakData
import Patternwork.Unicode.ScriptData
import Patternwork.Unicode.Word

namespace Patternwork.Unicode

/-- Drops the characters of a name that do not count, and its case. -/
def plainName (name : List Char) : List Char :=
  (name.filter fun c => c.toNat < 0x80 && c != ' ' && c != '_' && c != '-').map Char.toLower

def lookupName (name : String) : String :=
  match name.toList with
  | i :: s :: rest =>
    if i.toLower = 'i' ∧ s.toLower = 's' then
      let plain := plainName rest
      if plain = ['c'] then "isc" else String.ofList plain
    else String.ofList (plainName (i :: s :: rest))
  | short => String.ofList (plainName short)

def isNamed (name : String) (names : String) : Bool :=
  (names.splitOn " ").contains name

def valueNamed? (name : String) (names : List String) : Option Nat :=
  names.findIdx? (isNamed name)

/-- The first and last category of each group of categories. -/
def categoryGroups : List (String × List Nat) :=
  [("l letter", [0, 1, 2, 3, 4]), ("lc casedletter", [0, 1, 2]),
   ("m mark combiningmark", [5, 6, 7]), ("n number", [8, 9, 10]),
   ("p punctuation punct", [11, 12, 13, 14, 15, 16, 17]), ("s symbol", [18, 19, 20, 21]),
   ("z separator", [22, 23, 24]), ("c other", [25, 26, 27, 28, 29])]

/-- The code points of a general category or a group of them. -/
def categoryNamed? (name : String) : Option Ranges :=
  if name = "any" then some ⟨#[(0, codeSpace - 1)]⟩
  else if name = "ascii" then some ⟨#[(0, 0x7f)]⟩
  else if name = "assigned" then some (categories.ranges (· != 29))
  else
    match categoryGroups.find? fun group => isNamed name group.1 with
    | some (_, members) => some (categories.ranges members.contains)
    | none => (valueNamed? name categoryNames).map fun value => categories.ranges (· == value)

def scriptNamed? (name : String) : Option Ranges :=
  (valueNamed? name scriptNames).map fun script =>
    (Runs.ofLines scriptRuns).ranges (· == script)

def scriptUseNamed? (name : String) : Option Ranges :=
  (valueNamed? name scriptNames).map fun script =>
    (Runs.ofLines scriptSetRuns).ranges fun set => ((scriptSets[set]?).getD []).contains script

/-- The code points assigned in a version or before it. -/
def ageNamed? (name : String) : Option Ranges :=
  (valueNamed? name ageNames).map fun version =>
    (Runs.ofLines ageRuns).ranges (· ≤ version)

def breakNamed? (names runs : List String) (name : String) : Option Ranges :=
  (valueNamed? name names).map fun value => (Runs.ofLines runs).ranges (· == value)

def binaryNamed? (name : String) : Option Ranges :=
  (binaryData.find? fun entry => isNamed name entry.1).map fun entry => Ranges.ofBounds entry.2

/-- The code points that a single name stands for: a binary property, a general
    category or a script. -/
def named? (name : String) : Option Ranges :=
  let name := lookupName name
  binaryNamed? name <|> categoryNamed? name <|> scriptNamed? name

/-- The code points for which the property `name` has a value. -/
def valued? (name value : String) : Option Ranges :=
  let name := lookupName name
  let value := lookupName value
  if isNamed name "gc generalcategory" then categoryNamed? value
  else if isNamed name "sc script" then scriptNamed? value
  else if isNamed name "scx scriptextensions" then scriptUseNamed? value
  else if isNamed name "age" then ageNamed? value
  else if isNamed name "gcb graphemeclusterbreak" then
    breakNamed? graphemeBreakNames graphemeBreakRuns value
  else if isNamed name "wb wordbreak" then breakNamed? wordBreakNames wordBreakRuns value
  else if isNamed name "sb sentencebreak" then
    breakNamed? sentenceBreakNames sentenceBreakRuns value
  else none

end Patternwork.Unicode
