import FeatureFlags.Unicode.CategoryData
import FeatureFlags.Unicode.CharSet
import FeatureFlags.Unicode.FoldingData
import FeatureFlags.Unicode.PropertyData
import FeatureFlags.Unicode.ScriptData
import FeatureFlags.Unicode.ScriptExtensionData

/-!
# Properties of characters

Sets of characters by the names that the Unicode standard gives them: general
categories and their groups, scripts, script extensions and binary properties.
Names are compared without case, spaces, `_`, `-` and a leading `is`.
-/

namespace FeatureFlags.Unicode

/-! ## Names -/

/-- The form in which names are compared. -/
def looseName (name : List Char) : String :=
  let lower := name.map Char.toLower
  let hasIs := lower.take 2 = ['i', 's']
  let rest := (if hasIs then lower.drop 2 else lower).filter fun c =>
    c.toNat < 128 ∧ c ≠ ' ' ∧ c ≠ '_' ∧ c ≠ '-'
  String.ofList (if hasIs ∧ rest = ['c'] then "isc".toList else rest)

/-- The set with the given name in a table. -/
def find? (data : List (List String × String)) (name : String) : Option CharSet :=
  (data.find? fun (names, _) => names.contains name).map fun (_, text) => .ofText text

/-! ## General categories -/

/-- The groups of general categories by their names. -/
def categoryGroups : List (List String × List String) := [
  (["lc", "casedletter"], ["lu", "ll", "lt"]),
  (["l", "letter"], ["lu", "ll", "lt", "lm", "lo"]),
  (["m", "mark", "combiningmark"], ["mn", "mc", "me"]),
  (["n", "number"], ["nd", "nl", "no"]),
  (["p", "punctuation", "punct"], ["pc", "pd", "ps", "pe", "pi", "pf", "po"]),
  (["s", "symbol"], ["sm", "sc", "sk", "so"]),
  (["z", "separator"], ["zs", "zl", "zp"]),
  (["c", "other"], ["cc", "cf", "cn", "co"])]

/-- The union of some general categories. -/
def categories (names : List String) : CharSet := .unions (names.filterMap (find? categoryData))

/-- The general category, or group of them, with the given name. -/
def category? (name : String) : Option CharSet :=
  if name = "any" then some .all
  else if name = "ascii" then some (.between 0 0x7F)
  else if name = "assigned" then some (categories ["cn"]).complement
  else match categoryGroups.find? fun (names, _) => names.contains name with
    | some (_, members) => some (categories members)
    | none => find? categoryData name

/-! ## Scripts and properties -/

/-- The characters of a script. -/
def script? (name : String) : Option CharSet := find? scriptData name

/-- The characters that a script is written with. -/
def scriptExtension? (name : String) : Option CharSet :=
  (find? scriptExtensionData name).orElse fun _ => script? name

/-- The set that a name by itself means: a binary property, a general category or a script,
looked for in this order. -/
def named? (name : List Char) : Option CharSet :=
  let name := looseName name
  (find? propertyData name).orElse fun _ => (category? name).orElse fun _ => script? name

/-- The characters for which a property has a value. -/
def withValue? (property value : List Char) : Option CharSet :=
  let property := looseName property
  let value := looseName value
  if property = "gc" ∨ property = "generalcategory" then category? value
  else if property = "sc" ∨ property = "script" then script? value
  else if property = "scx" ∨ property = "scriptextensions" then scriptExtension? value
  else none

/-- The decimal digits of all scripts. -/
def decimalDigits : CharSet := categories ["nd"]

/-- The characters that words are made of: letters and other alphabetic characters, marks,
decimal digits, connectors and joiners. -/
def wordChars : CharSet :=
  .unions ([find? propertyData "alphabetic", find? propertyData "joincontrol",
    some (categories ["mn", "mc", "me", "nd", "pc"])].filterMap id)

/-- Letters and other alphabetic characters. -/
def alphabetic : CharSet := (find? propertyData "alphabetic").getD .empty

/-- Alphabetic characters and numbers. -/
def alphanumeric : CharSet := alphabetic.union (categories ["nd", "nl", "no"])

/-! ## Case -/

/-- The groups of code points that differ by case only. -/
def caseGroups : List (List Nat) :=
  (Text.splitAll ',' foldingData.toList).map fun group =>
    (Text.words group).filterMap Text.hexDigitsValue?

/-- The set with all characters that differ from a member by case only. -/
def closeUnderCase (s : CharSet) : CharSet :=
  s.union ⟨(caseGroups.filter (·.any s.containsCode)).flatMap (·.map fun n => (n, n))⟩

end FeatureFlags.Unicode
