import Companion.Config
import Companion.Toml.Decode

set_option autoImplicit false

namespace Companion.Config

def languageNames : List (String × Language) :=
  [Language.rust, Language.kotlin].map fun language => (language.name, language)

def form : Toml.Decoder.Form Config where
  name := "GeneratorConfig"
  fields :=
    [⟨"generated_dir", fun config value => do
        return config.withDirectory ⟨← Toml.Decoder.text "path string" value⟩⟩,
      ⟨"annotation", fun config value => do
        return config.withMarker (← Toml.Decoder.text "a string" value)⟩,
      ⟨"language", fun config value => do
        return config.withLanguage (← Toml.Decoder.variant languageNames value)⟩]
  isClosed := false

def decoder : Toml.Decoder Config := Toml.Decoder.record form default

def ofToml (text : String) : Except Toml.Flaw Config :=
  Toml.decodeText decoder text

end Companion.Config
