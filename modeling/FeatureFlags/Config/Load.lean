import FeatureFlags.Config.Environment
import FeatureFlags.Config.File
import FeatureFlags.Config.Resolve

/-!
# Loading the configuration

The configuration of a server: the environment counts before the configuration file.
-/

namespace FeatureFlags.Config

/-- The settings that a configuration file and the environment give. -/
def load (file : FileContent) (env : Environment) : Except Error Settings :=
  resolve [⟨.defaults, .ok {}⟩, ⟨.file, file.layer⟩, ⟨.environment, env.layer⟩]

end FeatureFlags.Config
