import Companion.Render.KotlinType
import Companion.Render.Lines

set_option autoImplicit false

namespace Companion.Render.Kotlin

/-- The words that cannot stand as an identifier unless they are quoted. -/
def hardKeywords : List String :=
  ["as", "break", "class", "continue", "do", "else", "false", "for", "fun", "if", "in",
    "interface", "is", "null", "object", "package", "return", "super", "this", "throw", "true",
    "try", "typealias", "typeof", "val", "var", "when", "while"]

def identifier (name : String) : String :=
  if hardKeywords.contains name then "`" ++ name ++ "`" else name

/-- A line of documentation whose comment delimiters are broken up, so that it can neither end the comment nor open
another one. -/
def commentText (line : String) : String :=
  Text.replace "/*" "&#47;*" (Text.replace "*/" "*&#47;" line)

def docComment (property : Property) : String :=
  match (propertyDocs property).map commentText with
  | [] => ""
  | lines =>
      "  /**\n" ++ String.join (lines.map fun line => "   * " ++ line ++ "\n") ++ "   */\n"

def property (property : Property) : String :=
  docComment property
    ++ "  private var " ++ identifier property.name ++ ": " ++ typeText property.type ++ " = null\n"

def accessor (property : Property) : String :=
  "  fun " ++ property.accessor ++ "(): " ++ typeText property.type ++ " \x7b\n"
    ++ "    return " ++ identifier property.name ++ "\n"
    ++ "  \x7d\n"

def mutator (property : Property) : String :=
  let name := identifier property.name
  "  fun " ++ property.mutator ++ "(" ++ name ++ ": " ++ typeText property.type ++ ") \x7b\n"
    ++ "    this." ++ name ++ " = " ++ name ++ "\n"
    ++ "  \x7d\n"

def member : Member → String
  | .property p => property p
  | .accessor p => accessor p
  | .mutator p => mutator p

/-- The line that names the package; the root namespace has none. -/
def packageLine (space : Namespace) : String :=
  if space.isRoot then ""
  else "package " ++ String.intercalate "." (space.segments.map identifier) ++ "\n"

def importLines (imports : List Import) : String :=
  if imports.isEmpty then ""
  else "\n" ++ String.join (imports.map fun needed => "import " ++ needed.path ++ "\n")

def preamble (type : CompanionType) : String :=
  header type ++ packageLine type.space ++ importLines (importsOf (type.properties.map (·.type))) ++ "\n"

/-- The whole file. A type without members has no body. -/
def file (type : CompanionType) : String :=
  if type.isEmpty then
    preamble type ++ "class " ++ type.name ++ "\n"
  else
    preamble type
      ++ "class " ++ type.name ++ " \x7b\n"
      ++ String.intercalate "\n" (type.members.map member)
      ++ "\x7d\n"

end Companion.Render.Kotlin
