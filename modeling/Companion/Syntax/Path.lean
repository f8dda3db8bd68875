import Companion.Syntax.Attribute

set_option autoImplicit false

namespace Companion.Syntax

open Companion.Syntax.Parser

inductive Arguments where
  | none
  /-- Arguments between angles, all of them types. -/
  | types (types : List TypeSyntax)
  /-- Arguments between angles, with lifetimes, values or bindings among them. -/
  | mixed
  deriving Repr

structure Segment where
  name : String
  arguments : Arguments
  deriving Repr

def Segment.isBare (segment : Segment) : Bool :=
  match segment.arguments with
  | .none => true
  | _ => false

structure PathForm where
  absolute : Bool
  segments : List Segment
  deriving Repr

namespace PathForm

def isBare (path : PathForm) : Bool :=
  path.segments.all Segment.isBare

def endsBare (path : PathForm) : Bool :=
  match path.segments.getLast? with
  | some segment => segment.isBare
  | none => true

def type (path : PathForm) (spelling : String) : TypeSyntax :=
  match path.segments.getLast? with
  | none => .other spelling
  | some last =>
      let leading := path.segments.dropLast
      if leading.all Segment.isBare then
        match last.arguments with
        | .none => .path path.absolute (leading.map (·.name)) last.name []
        | .types types => .path path.absolute (leading.map (·.name)) last.name types
        | .mixed => .other spelling
      else .other spelling

end PathForm

/-- Where a path stands. In an expression an angle behind a name is an operator, unless two colons stand between. -/
inductive PathStyle where
  | inType
  | inExpression
  deriving DecidableEq, Repr

inductive Argument where
  | lifetime
  | plain (type : TypeSyntax)
  | other
  deriving Repr

namespace Argument

def isLifetime : Argument → Bool
  | lifetime => true
  | _ => false

def type? : Argument → Option TypeSyntax
  | plain type => some type
  | _ => none

end Argument

def blockWithAttributes (g : Grammar) : Parser Unit := do
  let _ ← group .brace do
    let _ ← innerAttributes g
    g.statements

def block (g : Grammar) : Parser Unit :=
  group .brace g.statements

def startsConstant : Look := fun trees => Look.literal trees || Look.group .brace trees

/-- A value that is an argument between angles: a literal or a block. -/
def constantArgument (g : Grammar) : Parser Unit := do
  if ← sees Look.literal then literal
  else if ← sees (Look.group .brace) then blockWithAttributes g
  else noneOf []

def argumentBounds (g : Grammar) : Parser Unit := do
  let _ ← separated
    (Separation.pluses fun trees => Look.sign "," trees || Look.sign ">" trees)
    (g.bound ⟨false, true⟩)

/-- An argument between angles. A name with an equals sign or a colon behind it binds an associated type or value. -/
def argument (g : Grammar) : Parser Argument := do
  if ← sees (fun trees => Look.lifetime trees && !Look.second (Look.sign "+") trees) then
    lifetime
    return .lifetime
  if ← sees startsConstant then
    constantArgument g
    return .other
  let form ← g.type true
  if form.shape == .path false 1 then
    if ← optionalSign "=" then
      if ← sees startsConstant then constantArgument g
      else
        let _ ← g.type true
      return .other
    if ← optionalSign ":" then
      argumentBounds g
      return .other
  return .plain form.type

/-- Arguments between angles. Lifetimes are written in front of the others. -/
def angleArguments (g : Grammar) : Parser Arguments := do
  let _ ← optionalSign "::"
  sign "<"
  let found ← pieces (.commasUpTo ">") (argument g)
  writeAll (reordered Argument.isLifetime found)
  sign ">"
  let types := found.filterMap fun piece => piece.value.type?
  if types.length == found.length then return .types types
  return .mixed

def pathSegment (g : Grammar) (style : PathStyle) : Parser Segment := do
  if ← sees (Look.oneOf ["super", "self", "crate", "try"]) then
    return ⟨← anyWord, .none⟩
  let name ← if ← sees (Look.word "Self") then anyWord else identifier
  let opensAngle : Look := fun trees =>
    (style == .inType && Look.sign "<" trees && !Look.sign "<=" trees) ||
      (Look.sign "::" trees && Look.third (Look.sign "<") trees)
  if ← sees opensAngle then
    return ⟨name, ← angleArguments g⟩
  return ⟨name, .none⟩

/-- A path. Two colons in front of a parenthesis do not belong to it. -/
def path (g : Grammar) (style : PathStyle) : Parser PathForm := do
  let absolute ← optionalSign "::"
  let first ← pathSegment g style
  let others ← itemsWhile (fun trees => Look.sign "::" trees && !Look.third (Look.group .parenthesis) trees) do
    sign "::"
    pathSegment g style
  return ⟨absolute, first :: others⟩

/-- A path that may begin with a type between angles; of such a path nothing is told. -/
def qualifiedPath (g : Grammar) (style : PathStyle) : Parser (Option PathForm) := do
  if ← sees (Look.sign "<") then
    sign "<"
    let _ ← g.type true
    if ← optionalWord "as" then
      let _ ← path g .inType
    sign ">"
    sign "::"
    let _ ← pathSegment g style
    let _ ← itemsWhile (Look.sign "::") do
      sign "::"
      pathSegment g style
    return none
  return some (← path g style)

/-- Reads `pub` and what limits it; tells whether it was there. A parenthesis that limits nothing belongs to what
follows. -/
def visibility : Parser Bool := do
  if ← sees (Look.word "pub") then
    word "pub"
    if ← sees (Look.group .parenthesis) then
      if ← sees limitsToModule then
        group .parenthesis do
          let _ ← anyWord
      else if ← sees limitsToPath then
        group .parenthesis do
          word "in"
          let _ ← namePath
    return true
  return false
where
  /-- Whether the parenthesis that stands next names a module by a keyword. -/
  limitsToModule : Look
    | .group _ [.word text _] _ _ :: _ => ["crate", "self", "super"].contains text
    | _ => false
  /-- Whether the parenthesis that stands next names a module by a path. -/
  limitsToPath : Look
    | .group _ (.word text _ :: _) _ _ :: _ => text == "in"
    | _ => false

end Companion.Syntax
