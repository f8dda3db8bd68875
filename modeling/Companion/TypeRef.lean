set_option autoImplicit false

namespace Companion

inductive Primitive where
  | bool | char
  | i8 | i16 | i32 | i64 | i128 | isize
  | u8 | u16 | u32 | u64 | u128 | usize
  | f32 | f64
  deriving DecidableEq, Repr

namespace Primitive

def all : List Primitive :=
  [bool, char, i8, i16, i32, i64, i128, isize, u8, u16, u32, u64, u128, usize, f32, f64]

def name : Primitive → String
  | bool => "bool"
  | char => "char"
  | i8 => "i8"
  | i16 => "i16"
  | i32 => "i32"
  | i64 => "i64"
  | i128 => "i128"
  | isize => "isize"
  | u8 => "u8"
  | u16 => "u16"
  | u32 => "u32"
  | u64 => "u64"
  | u128 => "u128"
  | usize => "usize"
  | f32 => "f32"
  | f64 => "f64"

def ofName? (text : String) : Option Primitive :=
  all.find? (·.name == text)

end Primitive

inductive TypeRef where
  | scalar (primitive : Primitive)
  | string
  | list (element : TypeRef)
  | optional (value : TypeRef)
  | named (path : List String) (arguments : List TypeRef)
  | verbatim (text : String)
  deriving Repr

namespace TypeRef

def isOptional : TypeRef → Bool
  | optional _ => true
  | _ => false

/-- The type that also admits an absent value. A type that does so already stays. -/
def nullable (type : TypeRef) : TypeRef :=
  if type.isOptional then type else optional type

def nonNull : TypeRef → TypeRef
  | optional value => value
  | type => type

mutual

def render : TypeRef → String
  | scalar primitive => primitive.name
  | string => "String"
  | list element => "Vec<" ++ element.render ++ ">"
  | optional value => "Option<" ++ value.render ++ ">"
  | named path [] => String.intercalate "::" path
  | named path (first :: others) =>
      String.intercalate "::" path ++ "<" ++ first.render ++ renderOthers others ++ ">"
  | verbatim text => text

def renderOthers : List TypeRef → String
  | [] => ""
  | type :: others => ", " ++ type.render ++ renderOthers others

end

end TypeRef

end Companion
