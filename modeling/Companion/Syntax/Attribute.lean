import Companion.Syntax.Grammar
import Companion.Syntax.Literal

set_option autoImplicit false

namespace Companion.Syntax

open Companion.Syntax.Parser

def startsName : Look := fun trees =>
  Look.identifier trees || Look.oneOf ["super", "self", "Self", "crate"] trees

/-- A path of names only: whether it begins at the root, and the names. -/
def namePath : Parser (Bool × List String) := do
  let absolute ← optionalSign "::"
  let found ← pieces ⟨fun trees => !startsName trees, Look.sign "::", "::"⟩ anyWord
  writeAll (found.flatMap (Piece.spelling "::"))
  match found.getLast? with
  | none =>
      let name ← identifier
      return (absolute, [name])
  | some last =>
      if last.separated then missing .segmentAfterColons
      return (absolute, found.map (·.value))

/-- The text of a string literal that stands alone. -/
def literalText (trees : List Tree) : Option String :=
  match trees with
  | [.literal text _] => (Literal.stringValue text.toList).map String.ofList
  | _ => none

/-- What an attribute assigns: a literal that stands alone, or an expression. The text of a string that stands alone is
given. -/
def attributeValue (g : Grammar) : Parser (Option String) := do
  if ← sees isLiteral then
    let text ← attributeText
    literal
    return text
  if ← sees (fun trees => Look.sign "#" trees && Look.second (Look.group .bracket) trees) then
    missing .attributeInsideAttribute
  let _ ← g.expression true
  return none
where
  /-- Whether all that is left is a literal. -/
  isLiteral : Look
    | [sign, number] => Look.literal [sign, number] && !Look.literal [sign]
    | trees => Look.literal trees && trees.length == 1
  /-- The text of the literal that stands next. -/
  attributeText : Parser (Option String) := fun stream => .ok (literalText stream.trees, stream)

def attributeBody (g : Grammar) : Parser Attribute := do
  let (absolute, names) ←
    if ← sees (Look.word "unsafe") then
      word "unsafe"
      pure (false, ["unsafe"])
    else namePath
  if ← sees Look.anyGroup then
    let _ ← rawGroup
    return ⟨absolute, names, none⟩
  if ← sees (Look.sign "=") then
    sign "="
    return ⟨absolute, names, ← attributeValue g⟩
  return ⟨absolute, names, none⟩

def outerAttribute (g : Grammar) : Parser Attribute := do
  sign "#"
  group .bracket (attributeBody g)

def outerAttributes (g : Grammar) : Parser (List Attribute) :=
  itemsWhile (Look.sign "#") (outerAttribute g)

def innerAttributes (g : Grammar) : Parser (List Attribute) :=
  itemsWhile (fun trees => Look.sign "#" trees && Look.second (Look.sign "!") trees) do
    sign "#"
    sign "!"
    group .bracket (attributeBody g)

end Companion.Syntax
