import Companion.FilePath
import Companion.Language
import Companion.Naming
import Companion.OsError
import Companion.Text.Quoted

/-!
Configuration of a round. A configuration is layered: it starts from the defaults or from a table, host options and
single settings go on top of it, and `validate` turns it into the settings that a round runs with.
-/

set_option autoImplicit false

namespace Companion

inductive ConfigError where
  | missingOutput (option : String)
  | invalidMarker (tag : String)
  | unknownLanguage (name : String)
  | unparsable (reason : String)
  | unreadable (path : FilePath) (cause : OsError)
  deriving DecidableEq, Repr

def ConfigError.message : ConfigError → String
  | missingOutput option =>
      "missing output configuration: set the `" ++ option ++ "` option to the generated-sources directory"
  | invalidMarker tag => "invalid annotation tag: " ++ Text.quoted tag
  | unknownLanguage name => "unknown target language: " ++ name ++ " (expected `rust` or `kotlin`)"
  | unparsable reason => "failed to parse configuration: " ++ reason
  | unreadable path cause =>
      "failed to read configuration " ++ Text.quoted path.text ++ ": " ++ cause.message

/-- Host options: keys with their values. Where a key occurs twice, its first value counts. -/
abbrev HostOptions := List (String × String)

namespace HostOptions

def generatedDirectory : String := "extractfield.generated"

def marker : String := "extractfield.annotation"

def language : String := "extractfield.language"

end HostOptions

structure Config where
  generatedDirectory : Option FilePath
  marker : String
  language : Language
  deriving DecidableEq, Repr

structure Settings where
  outputRoot : FilePath
  marker : String
  language : Language
  deriving DecidableEq, Repr

namespace Config

/-- The marker that is recognized when none is configured. -/
def defaultMarker : String := "extract_field"

def default : Config := ⟨none, defaultMarker, .rust⟩

def withDirectory (config : Config) (path : FilePath) : Config :=
  { config with generatedDirectory := some path }

def withMarker (config : Config) (tag : String) : Config :=
  { config with marker := tag }

def withLanguage (config : Config) (language : Language) : Config :=
  { config with language := language }

/-- Sets what is given and leaves the rest as it is. -/
def override (config : Config) (path : Option FilePath) (tag : Option String) (language : Option Language) : Config :=
  ⟨path.or config.generatedDirectory, tag.getD config.marker, language.getD config.language⟩

/-- Sets the directory and the marker that host options give. -/
def applyPaths (config : Config) (options : HostOptions) : Config :=
  let config := match options.lookup HostOptions.generatedDirectory with
    | some path => config.withDirectory ⟨path⟩
    | none => config
  match options.lookup HostOptions.marker with
  | some tag => config.withMarker tag
  | none => config

/-- Puts host options on top. The language is read last, so when it is not known the directory and the marker of the
same options are set all the same. -/
def applyOptions (config : Config) (options : HostOptions) : Config × Option ConfigError :=
  let config := config.applyPaths options
  match options.lookup HostOptions.language with
  | none => (config, none)
  | some name =>
      match Language.read name with
      | .ok language => (config.withLanguage language, none)
      | .error unknown => (config, some (.unknownLanguage unknown))

/-- The configuration that host options alone give. -/
def ofOptions (options : HostOptions) : Except ConfigError Config :=
  match default.applyOptions options with
  | (config, none) => .ok config
  | (_, some reason) => .error reason

/-- The settings, if there is an output directory and the marker is an identifier. The directory is checked first. -/
def validate (config : Config) : Except ConfigError Settings :=
  match config.generatedDirectory with
  | none => .error (.missingOutput HostOptions.generatedDirectory)
  | some path =>
      if path.text.isEmpty then .error (.missingOutput HostOptions.generatedDirectory)
      else if Naming.isIdentifier config.marker then
        .ok ⟨path, config.marker, config.language⟩
      else .error (.invalidMarker config.marker)

end Config

end Companion
