import Companion.Render.Lines

set_option autoImplicit false

namespace Companion.Render.Rust

/-- The words that cannot stand as an identifier unless they are written raw. -/
def keywords : List String :=
  ["abstract", "as", "async", "await", "become", "box", "break", "const", "continue", "do",
    "dyn", "else", "enum", "extern", "false", "final", "fn", "for", "gen", "if", "impl", "in",
    "let", "loop", "macro", "match", "mod", "move", "mut", "override", "priv", "pub", "ref",
    "return", "static", "struct", "trait", "true", "try", "type", "typeof", "unsafe", "unsized",
    "use", "virtual", "where", "while", "yield"]

def identifier (name : String) : String :=
  if keywords.contains name then "r#" ++ name else name

def field (property : Property) : String :=
  String.join ((propertyDocs property).map fun line => "    /// " ++ line ++ "\n")
    ++ "    " ++ identifier property.name ++ ": " ++ property.type.render ++ ",\n"

def accessor (property : Property) : String :=
  "    pub fn " ++ property.accessor ++ "(&self) -> Option<&" ++ property.type.nonNull.render ++ "> \x7b\n"
    ++ "        self." ++ identifier property.name ++ ".as_ref()\n"
    ++ "    \x7d\n"

/-- The function that replaces the value of a field. -/
def mutator (property : Property) : String :=
  let name := identifier property.name
  "    pub fn " ++ property.mutator ++ "(&mut self, " ++ name ++ ": " ++ property.type.render ++ ") \x7b\n"
    ++ "        self." ++ name ++ " = " ++ name ++ ";\n"
    ++ "    \x7d\n"

def member : Member → String
  | .property property => field property
  | .accessor property => accessor property
  | .mutator property => mutator property

/-- Whether a member stands in the structure and not in the block of functions. -/
def isField : Member → Bool
  | .property _ => true
  | _ => false

def allowance : String :=
  "#[allow(dead_code, non_snake_case)]\n"

def preamble (type : CompanionType) : String :=
  header type ++ "\n"
    ++ "/// Nullable companion of `" ++ type.sourceName ++ "`.\n"
    ++ allowance
    ++ "#[derive(Default)]\n"

/-- The whole file. A type without members has neither a body nor functions. -/
def file (type : CompanionType) : String :=
  if type.isEmpty then
    preamble type ++ "pub struct " ++ type.name ++ " \x7b\x7d\n"
  else
    let (fields, methods) := type.members.partition isField
    preamble type
      ++ "pub struct " ++ type.name ++ " \x7b\n"
      ++ String.join (fields.map member)
      ++ "\x7d\n"
      ++ "\n" ++ allowance
      ++ "impl " ++ type.name ++ " \x7b\n"
      ++ String.intercalate "\n" (methods.map member)
      ++ "\x7d\n"

end Companion.Render.Rust
