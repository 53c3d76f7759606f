import FeatureFlags.Uuid

/-!
# Identifiers of flags, projects and environments

Three kinds of identifiers that are not to be confused with each other.
-/

namespace FeatureFlags

/-- Identifies a flag. -/
structure FlagId where
  uuid : Uuid
deriving DecidableEq, Inhabited

/-- Identifies a project. -/
structure ProjectId where
  uuid : Uuid
deriving DecidableEq, Inhabited

/-- Identifies an environment. -/
structure EnvironmentId where
  uuid : Uuid
deriving DecidableEq, Inhabited

instance : Wire FlagId where
  encode i := encode i.uuid
  decode? d := (decode? d).map FlagId.mk

instance : Wire ProjectId where
  encode i := encode i.uuid
  decode? d := (decode? d).map ProjectId.mk

instance : Wire EnvironmentId where
  encode i := encode i.uuid
  decode? d := (decode? d).map EnvironmentId.mk

/-- The text of an identifier. -/
def FlagId.text (i : FlagId) : String := i.uuid.text

end FeatureFlags
