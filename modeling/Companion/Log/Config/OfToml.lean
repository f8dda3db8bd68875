import Companion.Log.Config
import Companion.Toml.Decode

set_option autoImplicit false

namespace Companion.Log.Config

def levelNames : List (String × Level) :=
  Level.all.map fun level => (level.name, level)

def form : Toml.Decoder.Form Config where
  name := "LogConfig"
  fields :=
    [⟨"level", fun config value => do
        return config.withLevel (← Toml.Decoder.variant levelNames value)⟩,
      ⟨"file", fun config value => do
        return config.withFile ⟨← Toml.Decoder.text "path string" value⟩⟩]
  isClosed := false

def decoder : Toml.Decoder Config := Toml.Decoder.record form default

def ofToml (text : String) : Except Toml.Flaw Config :=
  Toml.decodeText decoder text

end Companion.Log.Config
