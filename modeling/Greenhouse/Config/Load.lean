import Greenhouse.Config.Basic
import Greenhouse.Config.Files
import Greenhouse.Text.Blank

/-!
# Finding the configuration

The configuration is read from the file that the environment names, or else from the first
candidate that exists.
-/

namespace Greenhouse.Config

/-- A configuration and the path of its file. -/
structure Loaded where
  config : Config
  path : String
deriving DecidableEq

/-- Reads the configuration in a file. -/
def ofFile (files : Files) (path : String) : Except ConfigError Config :=
  match files.readText path with
  | .error e => .error (.read path e.message)
  | .ok text => parse ("failed to parse config file " ++ path) text

/-- Finds and reads the configuration.  A blank name in the environment does not count. -/
def load (files : Files) (env : Option String) (candidates : List String) :
    Except ConfigError Loaded :=
  let loaded (path : String) := (ofFile files path).map fun c => Loaded.mk c path
  match env.filter fun path => !Text.isBlankText path with
  | some path => loaded path
  | none =>
    match candidates.find? files.holds with
    | some path => loaded path
    | none =>
      .error (.invalid ("no configuration files found. inspected: "
        ++ String.intercalate ", " candidates))

end Greenhouse.Config
