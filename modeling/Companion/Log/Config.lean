import Companion.FilePath
import Companion.Log.Filter

set_option autoImplicit false

namespace Companion.Log

/-- How much is logged, and into which file. Without a file the log goes to standard error. -/
structure Config where
  level : Level
  file : Option FilePath
  deriving DecidableEq, Repr

namespace Config

def default : Config := ⟨.info, none⟩

def withLevel (config : Config) (level : Level) : Config :=
  { config with level := level }

def withFile (config : Config) (file : FilePath) : Config :=
  { config with file := some file }

def filter (config : Config) (environment : Option String) : Filter :=
  Filter.choose environment config.level

end Config

end Companion.Log
