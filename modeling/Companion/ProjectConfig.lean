import Companion.Config.OfToml
import Companion.FileSystem
import Companion.Log.Config.OfToml

set_option autoImplicit false

namespace Companion

structure ProjectConfig where
  generator : Config
  log : Log.Config
  deriving DecidableEq, Repr

/-- Why the configuration of a project cannot be used. -/
inductive ProjectConfigError where
  | unreadable (path : FilePath) (cause : OsError)
  | invalid (path : FilePath) (text : String) (flaw : Toml.Flaw)
  deriving DecidableEq, Repr

def ProjectConfigError.message : ProjectConfigError → String
  | unreadable path cause => "Failed to read config: " ++ Text.quoted path.text ++ ": " ++ cause.message
  | invalid path text flaw =>
      "Invalid config: " ++ Text.quoted path.text ++ ": Failed to parse config: " ++ flaw.message text

namespace ProjectConfig

/-- The file that is looked for when none is named. -/
def defaultPath : FilePath := ⟨"extractfield.toml"⟩

def default : ProjectConfig := ⟨.default, .default⟩

def form : Toml.Decoder.Form ProjectConfig where
  name := "ConfigFile"
  fields :=
    [⟨"generator", fun config value => do
        return { config with generator := ← Config.decoder value }⟩,
      ⟨"logging", fun config value => do
        return { config with log := ← Log.Config.decoder value }⟩]
  isClosed := true

def ofToml (text : String) : Except Toml.Flaw ProjectConfig :=
  Toml.decodeText (Toml.Decoder.record form default) text

def ofFile (files : FileSystem) (path : FilePath) : Except ProjectConfigError ProjectConfig :=
  match files.readText path with
  | .error cause => .error (.unreadable path cause)
  | .ok text => (ofToml text).mapError (.invalid path text)

def load (files : FileSystem) (path : Option FilePath) : Except ProjectConfigError ProjectConfig :=
  match path with
  | some path => ofFile files path
  | none => if files.isFile defaultPath then ofFile files defaultPath else .ok default

end ProjectConfig

end Companion
