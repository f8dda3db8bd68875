set_option autoImplicit false

namespace Companion.Naming

def companion (name : String) : String :=
  "ExtractField" ++ name

def accessor (field : String) : String :=
  "getThe" ++ field

def mutator (field : String) : String :=
  "setThe" ++ field

/-- Whether a character may stand first in a plain identifier. -/
def isWordStart (c : Char) : Bool :=
  c.isAlpha || c == '_'

def isWordPart (c : Char) : Bool :=
  c.isAlphanum || c == '_'

/-- Whether a text is a plain identifier: ASCII letters, digits and underscores, and no digit in front. -/
def isIdentifier (text : String) : Bool :=
  match text.toList with
  | [] => false
  | first :: others => isWordStart first && others.all isWordPart

end Companion.Naming
