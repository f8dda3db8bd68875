import Companion.TypeRef

set_option autoImplicit false

namespace Companion.Render.Kotlin

def scalarName : Primitive → String
  | .bool => "Boolean"
  | .char => "Char"
  | .i8 => "Byte"
  | .i16 => "Short"
  | .i32 => "Int"
  | .i64 | .isize => "Long"
  | .u8 => "UByte"
  | .u16 => "UShort"
  | .u32 => "UInt"
  | .u64 | .usize => "ULong"
  | .i128 | .u128 => "BigInteger"
  | .f32 => "Float"
  | .f64 => "Double"

inductive NameRule where
  | pointer
  | collection (name : String)
  | plain (name : String)
  deriving DecidableEq, Repr

/-- The rule for a named type, by its last segment and the number of its arguments: smart pointers vanish, and the
standard collections take the names of the corresponding interfaces. -/
def ruleFor (name : String) (arguments : Nat) : NameRule :=
  match arguments with
  | 1 =>
      if name == "Box" || name == "Rc" || name == "Arc" then .pointer
      else if name == "HashSet" || name == "BTreeSet" then .collection "Set"
      else if name == "VecDeque" then .collection "List"
      else .plain name
  | 2 => if name == "HashMap" || name == "BTreeMap" then .collection "Map" else .plain name
  | _ => .plain name

def nullableText (text : String) : String :=
  if text.toList.getLast? == some '?' then text else text ++ "?"

def applied (name : String) (arguments : List String) : String :=
  if arguments.isEmpty then name else name ++ "<" ++ String.intercalate ", " arguments ++ ">"

def namedText (path : List String) (arguments : List String) : String :=
  match path.getLast? with
  | none => "Any"
  | some last =>
      match ruleFor last arguments.length, arguments with
      | .pointer, inner :: _ => inner
      | .collection name, _ => applied name arguments
      | .plain name, _ => applied name arguments
      | .pointer, [] => last

mutual

/-- A type in Kotlin. Whatever has no counterpart is `Any`. -/
def typeText : TypeRef → String
  | .scalar primitive => scalarName primitive
  | .string => "String"
  | .list element => "List<" ++ typeText element ++ ">"
  | .optional value => nullableText (typeText value)
  | .named path arguments => namedText path (typeTexts arguments)
  | .verbatim _ => "Any"

def typeTexts : List TypeRef → List String
  | [] => []
  | type :: others => typeText type :: typeTexts others

end

inductive Import where
  | bigInteger
  deriving DecidableEq, Repr

def Import.path : Import → String
  | bigInteger => "java.math.BigInteger"

mutual

/-- Whether a scalar type that is written `BigInteger` occurs in a type, other than in a text kept as it stands. -/
def mentionsBigInteger : TypeRef → Bool
  | .scalar primitive => primitive == .i128 || primitive == .u128
  | .list element => mentionsBigInteger element
  | .optional value => mentionsBigInteger value
  | .named _ arguments => anyMentionsBigInteger arguments
  | .string | .verbatim _ => false

def anyMentionsBigInteger : List TypeRef → Bool
  | [] => false
  | type :: others => mentionsBigInteger type || anyMentionsBigInteger others

end

def importsOf (types : List TypeRef) : List Import :=
  if types.any mentionsBigInteger then [.bigInteger] else []

end Companion.Render.Kotlin
