import Companion.Text.Blank

set_option autoImplicit false

namespace Companion

inductive Language where
  | rust
  | kotlin
  deriving DecidableEq, Repr

namespace Language

def extension : Language → String
  | rust => "rs"
  | kotlin => "kt"

def name : Language → String
  | rust => "rust"
  | kotlin => "kotlin"

/-- Reads a name or an extension, in any case and with white space around it. The error is the text that was
compared. -/
def read (text : String) : Except String Language :=
  match Text.lowerAscii (Text.trim text) with
  | "rust" | "rs" => .ok rust
  | "kotlin" | "kt" => .ok kotlin
  | other => .error other

end Language

end Companion
