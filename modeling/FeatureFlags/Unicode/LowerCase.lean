import FeatureFlags.Unicode.LowerCaseData
import FeatureFlags.Unicode.Property

/-!
# Lower-case texts

The lower-case form of a text, by the Unicode rules that hold in every language.  A capital
sigma at the end of a word has a form of its own.
-/

namespace FeatureFlags.Unicode

/-- Code points with lower-case forms at the same distance. -/
structure LowerCaseRun where
  first : Nat
  last : Nat
  step : Nat
  /-- The lower-case form of the first code point. -/
  lower : Nat

/-- All runs. -/
def lowerCaseRuns : List LowerCaseRun :=
  (Text.splitAll ',' lowerCaseData.toList).filterMap fun run =>
    match (Text.words run).mapM Text.hexDigitsValue? with
    | some [first, last, step, lower] => some ⟨first, last, step, lower⟩
    | _ => none

/-- The lower-case form of a character by itself. -/
def lowerCaseChar (c : Char) : Char :=
  let n := c.toNat
  match lowerCaseRuns.find? fun r => r.first ≤ n && n ≤ r.last && (n - r.first) % r.step == 0 with
  | some r => Char.ofNat (r.lower + (n - r.first))
  | none => c

/-- Whether a letter with case follows, after any characters that case passes over. -/
def leadsToCased (cs : List Char) : Bool :=
  let passedOver := (find? propertyData "caseignorable").getD .empty
  let cased := (find? propertyData "cased").getD .empty
  (cs.dropWhile passedOver.contains).head?.any cased.contains

/-- The lower-case form of a text that follows the characters `before`, which are in reverse. -/
def lowerCaseFrom (before : List Char) : List Char → List Char
  | [] => []
  | c :: rest =>
    let lower :=
      if c = 'Σ' then if leadsToCased before ∧ !leadsToCased rest then ['ς'] else ['σ']
      else if c = 'İ' then ['i', '\u0307']
      else [lowerCaseChar c]
    lower ++ lowerCaseFrom (c :: before) rest

/-- The lower-case form of a text. -/
def lowerCase (s : String) : String := String.ofList (lowerCaseFrom [] s.toList)

end FeatureFlags.Unicode
