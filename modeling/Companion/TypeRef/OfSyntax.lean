import Companion.Syntax.Grammar
import Companion.TypeRef

set_option autoImplicit false

namespace Companion.TypeRef

/-- The names of a path. A path from the root begins with an empty name. -/
def pathNames (absolute : Bool) (leading : List String) (last : String) : List String :=
  (if absolute then [""] else []) ++ leading ++ [last]

def scalarOfPath? (absolute : Bool) (leading : List String) (last : String) (arguments : List TypeRef) :
    Option Primitive :=
  if !absolute && leading.isEmpty && arguments.isEmpty then Primitive.ofName? last else none

/-- The type that a path with arguments names. Strings, lists and optional values are known by their last name. -/
def ofPath (absolute : Bool) (leading : List String) (last : String) (arguments : List TypeRef) : TypeRef :=
  match scalarOfPath? absolute leading last arguments with
  | some primitive => .scalar primitive
  | none =>
      match last, arguments with
      | "String", [] => .string
      | "Vec", [element] => .list element
      | "Option", [value] => .optional value
      | _, _ => .named (pathNames absolute leading last) arguments

mutual

def ofSyntax : Syntax.TypeSyntax → TypeRef
  | .path absolute leading last arguments => ofPath absolute leading last (ofSyntaxes arguments)
  | .parenthesized inner => ofSyntax inner
  | .other spelling => .verbatim spelling

/-- The types that several declared types stand for. -/
def ofSyntaxes : List Syntax.TypeSyntax → List TypeRef
  | [] => []
  | type :: types => ofSyntax type :: ofSyntaxes types

end

end Companion.TypeRef
