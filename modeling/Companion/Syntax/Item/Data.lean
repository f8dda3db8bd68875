import Companion.Syntax.Type

set_option autoImplicit false

namespace Companion.Syntax

open Companion.Syntax.Parser

def startsInnerMembers : Look := fun trees =>
  Look.word "struct" trees || (Look.word "union" trees && Look.second (Look.group .brace) trees)

/-- A member with its name. A member without a name can be a group of members, which is kept as it stands; such groups
are read up to `depth` deep. -/
def namedMember (g : Grammar) : (depth : Nat) → Parser Member
  | 0 => noneOf []
  | depth + 1 => do
      let place ← place
      let attributes ← outerAttributes g
      let _ ← visibility
      let blank ← sees (Look.word "_")
      let name ← if blank then anyWord else identifier
      sign ":"
      let form ←
        if blank && (← sees startsInnerMembers) then
          spelledType .other do
            let begun ← get
            let _ ← anyWord
            let _ ← group .brace (separated .commas (namedMember g depth))
            keepSince begun
        else g.type true
      return ⟨attributes, some name, form.type, place⟩

def braceMembers (g : Grammar) : Parser (List Member) := fun stream =>
  group .brace (separated .commas (namedMember g (Tree.sizeAll stream.trees))) stream

def positionalMember (g : Grammar) : Parser Member := do
  let place ← place
  let attributes ← outerAttributes g
  let _ ← visibility
  let form ← g.type true
  return ⟨attributes, none, form.type, place⟩

def parenthesisMembers (g : Grammar) : Parser (List Member) :=
  group .parenthesis (separated .commas (positionalMember g))

/-- The members of a struct, with the clauses in front of or behind them. -/
def recordBody (g : Grammar) : Parser (List Member) := do
  let early ← clauses g
  let first : List Alternative := if early then [] else [.word "where", .group .parenthesis]
  if !early && (← sees (Look.group .parenthesis)) then
    let members ← parenthesisMembers g
    let late ← clauses g
    if ← sees (Look.sign ";") then
      sign ";"
      return members
    expectedOneOf ((if late then [] else [.word "where"]) ++ [.sign ";"])
  if ← sees (Look.group .brace) then return ← braceMembers g
  if ← sees (Look.sign ";") then
    sign ";"
    return []
  expectedOneOf (first ++ [.group .brace, .sign ";"])

def record (g : Grammar) : Parser (String × Bool × List Member) := do
  word "struct"
  let name ← identifier
  let isGeneric ← parameters g
  return (name, isGeneric, ← recordBody g)

/-- A variant of an enum. A visibility in front of it is not written. -/
def variant (g : Grammar) : Parser Unit := do
  let _ ← outerAttributes g
  let _ ← unwritten visibility
  let _ ← identifier
  if ← sees (Look.group .brace) then
    let _ ← braceMembers g
  else if ← sees (Look.group .parenthesis) then
    let _ ← parenthesisMembers g
  if ← optionalSign "=" then
    let _ ← g.expression true

/-- An enum; gives its name. -/
def enumeration (g : Grammar) : Parser String := do
  word "enum"
  let name ← identifier
  let _ ← parameters g
  let _ ← clauses g
  let _ ← group .brace (separated .commas (variant g))
  return name

/-- A union; gives its name. -/
def union (g : Grammar) : Parser String := do
  word "union"
  let name ← identifier
  let _ ← parameters g
  let _ ← clauses g
  let _ ← braceMembers g
  return name

end Companion.Syntax
