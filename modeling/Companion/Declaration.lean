import Companion.Namespace
import Companion.TypeRef
import Companion.Text.Quoted

set_option autoImplicit false

namespace Companion

structure Field where
  name : String
  type : TypeRef
  docs : List String
  deriving Repr

inductive DeclarationKind where
  | classLike | enumeration | union | interface | function | typeAlias | constant | field | implementation
  | module | other
  deriving DecidableEq, Repr

namespace DeclarationKind

def description : DeclarationKind → String
  | classLike => "class"
  | enumeration => "enum"
  | union => "union"
  | interface => "interface"
  | function => "function"
  | typeAlias => "type alias"
  | constant => "constant"
  | field => "field"
  | implementation => "impl block"
  | module => "module"
  | other => "item"

def isClassLike (kind : DeclarationKind) : Bool :=
  kind == classLike

end DeclarationKind

/-- A place in a file; lines and columns count from one. -/
structure Location where
  file : FilePath
  line : Nat
  column : Nat
  deriving DecidableEq, Repr

/-- The place as `file:line:column`. -/
def Location.render (place : Location) : String :=
  place.file.text ++ ":" ++ toString place.line ++ ":" ++ toString place.column

/-- A declaration that carries a marker. The number is the place of its record in the source that it came from. -/
structure Declaration where
  id : Nat
  name : String
  space : Namespace
  kind : DeclarationKind
  location : Option Location
  deriving DecidableEq, Repr

def Declaration.qualifiedName (declaration : Declaration) : String :=
  declaration.space.qualify declaration.name

structure Diagnostic where
  declaration : String
  message : String
  location : Option Location
  deriving DecidableEq, Repr

namespace Diagnostic

def against (declaration : Declaration) (message : String) : Diagnostic :=
  ⟨declaration.qualifiedName, message, declaration.location⟩

/-- The message, and under it an arrow to the place and the name. -/
def render (diagnostic : Diagnostic) : String :=
  "error: " ++ diagnostic.message ++
    match diagnostic.location with
    | some place => "\n  --> " ++ place.render ++ " (" ++ diagnostic.declaration ++ ")"
    | none => "\n  --> " ++ diagnostic.declaration

end Diagnostic

def onlyClassesMessage : String :=
  "only classes can be annotated"

end Companion
