import FeatureFlags.Binary64.Decimal

/-!
# TOML values

What a TOML document says.  The value of a date or a time is not kept.
-/

namespace FeatureFlags.Toml

/-- A TOML value. -/
inductive Value where
  | string (s : String)
  /-- A whole number of 64 bits with a sign. -/
  | integer (n : Int)
  | float (x : Binary64)
  | boolean (b : Bool)
  /-- A date, a time or both. -/
  | dateTime
  | array (items : List Value)
  | table (fields : List (String × Value))
deriving Inhabited

end FeatureFlags.Toml
