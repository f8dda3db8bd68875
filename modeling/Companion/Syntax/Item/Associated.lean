import Companion.Syntax.Item.Function

set_option autoImplicit false

namespace Companion.Syntax

open Companion.Syntax.Parser

def ruleStarts : List Alternative :=
  [.identifier, .word "self", .word "super", .word "crate", .sign "::"]

/-- Whether a call of a named rule may stand next. -/
def startsRule : Look := fun trees => ruleStarts.any fun other => other.look trees

/-- A call of a named rule. Without braces, a semicolon stands behind it. -/
def ruleCall (withName : Bool) : Parser Unit := do
  let _ ← namePath
  sign "!"
  if withName then
    if ← sees (fun trees => Look.identifier trees || Look.word "try" trees) then
      let _ ← anyWord
  let delimiter ← rawGroup
  if delimiter != .brace then sign ";"

/-- An identifier or `_`. -/
def nameOrBlank : Parser String := do
  if ← sees (fun trees => Look.identifier trees || Look.word "_" trees) then anyWord
  else expectedOneOf [.identifier, .word "_"]

/-- A constant: its name, and whether it has a value and nothing that only newer rules allow. -/
structure ConstantForm where
  name : String
  hasValue : Bool
  isPlain : Bool

def constantRest (g : Grammar) : Parser ConstantForm := do
  let name ← nameOrBlank
  let angled ← sees (Look.sign "<")
  let _ ← parameters g
  sign ":"
  let _ ← g.type true
  let hasValue ← optionalSign "="
  if hasValue then
    let _ ← g.expression true
  let claused ← clauses g
  sign ";"
  return ⟨name, hasValue, !angled && !claused⟩

/-- Where the clauses of a type stand: in front of its definition, behind it, or at either place. -/
inductive ClausePlace where
  | inFront
  | behind
  | either
  deriving DecidableEq, Repr

structure NamedType where
  name : String
  hasBounds : Bool
  hasDefinition : Bool

def endsTypeItemBounds : Look := fun trees =>
  Look.word "where" trees || Look.sign "=" trees || Look.sign ";" trees

/-- Bounds that may be missing, between a colon and one of several ends. -/
def boundsUpTo (g : Grammar) (stop : Look) (rules : BoundRules) : Parser Unit :=
  optionalBounds ⟨stop, fun trees => !stop trees, "+"⟩ (bound g rules)

def namedType (g : Grammar) (clausePlace : ClausePlace) : Parser NamedType := do
  word "type"
  let name ← identifier
  let _ ← parameters g
  let hasBounds ← sees (Look.sign ":")
  boundsUpTo g endsTypeItemBounds boundsOnly
  let early ← if clausePlace != .behind then clauses g else pure false
  let hasDefinition ← optionalSign "="
  if hasDefinition then
    let _ ← g.type true
  if clausePlace != .inFront && !early then
    let _ ← clauses g
  sign ";"
  return ⟨name, hasBounds, hasDefinition⟩

def traitFunction (g : Grammar) : Parser Unit := do
  let _ ← signature g false
  if ← sees (Look.group .brace) then
    let _ ← body g
  else if ← sees (Look.sign ";") then sign ";"
  else expectedOneOf [.group .brace, .sign ";"]

/-- A part of a trait that begins with `const`; tells whether it is kept as it stands. -/
def traitConstant (g : Grammar) : Parser Bool := do
  word "const"
  if ← sees (fun trees => Look.identifier trees || Look.word "_" trees) then
    return !(← constantRest g).isPlain
  expectedOneOf [.identifier, .word "_", .word "async", .word "unsafe", .word "extern", .word "fn"]

def traitPart (g : Grammar) : Parser Unit := do
  let begun ← get
  let _ ← outerAttributes g
  let visible ← visibility
  let default_ ← optionalWord "default"
  let isBare := !visible && !default_
  let kept ←
    if ← sees (startsSignature false) then
      traitFunction g
      pure false
    else if ← sees (Look.word "const") then traitConstant g
    else if ← sees (Look.word "type") then
      let _ ← namedType g .behind
      pure false
    else if isBare && (← sees startsRule) then
      ruleCall false
      pure false
    else
      expectedOneOf ([.word "fn", .word "const", .word "type"] ++ if isBare then ruleStarts else [])
  if kept || !isBare then keepSince begun

/-- A function of an implementation; tells whether it has no body. -/
def implementedFunction (g : Grammar) : Parser Bool := do
  let _ ← signature g false
  if ← optionalSign ";" then return true
  let _ ← body g
  return false

def implementationPart (g : Grammar) : Parser Unit := do
  let begun ← get
  let _ ← outerAttributes g
  let visible ← visibility
  let starts := fun trees => Look.word "default" trees && !Look.second (Look.sign "!") trees
  let default_ ← if ← sees starts then optionalWord "default" else pure false
  let isBare := !visible && !default_
  let kept ←
    if ← sees (startsSignature false) then implementedFunction g
    else if ← sees (Look.word "const") then
      word "const"
      let form ← constantRest g
      pure !(form.isPlain && form.hasValue)
    else if ← sees (Look.word "type") then
      let form ← namedType g .behind
      pure (form.hasBounds || !form.hasDefinition)
    else if isBare && (← sees startsRule) then
      ruleCall false
      pure false
    else
      expectedOneOf ((if default_ then [] else [.word "default"]) ++ [.word "fn", .word "const", .word "type"] ++
        if isBare then ruleStarts else [])
  if kept then keepSince begun

/-- A function of another language; tells whether it is kept as it stands, because it is called safe or has a body. -/
def foreignFunction (g : Grammar) : Parser Bool := do
  let (_, safe) ← signature g true
  if ← sees (Look.group .brace) then
    let _ ← body g
    return true
  sign ";"
  return safe

/-- A static of another language; tells whether it is kept as it stands. -/
def foreignStatic (g : Grammar) : Parser Bool := do
  let exempt ← optionalWord "unsafe"
  let safe ← if exempt then pure false else optionalWord "safe"
  word "static"
  let _ ← optionalWord "mut"
  let _ ← identifier
  sign ":"
  let _ ← g.type true
  let hasValue ← optionalSign "="
  if hasValue then
    let _ ← g.expression true
  sign ";"
  return exempt || safe || hasValue

def foreignPart (g : Grammar) : Parser Unit := do
  let begun ← get
  let _ ← outerAttributes g
  let visible ← visibility
  let startsStatic : Look := fun trees =>
    Look.word "static" trees ||
      (Look.oneOf ["unsafe", "safe"] trees && Look.second (Look.word "static") trees)
  let kept ←
    if ← sees (startsSignature true) then foreignFunction g
    else if ← sees startsStatic then foreignStatic g
    else if ← sees (Look.word "type") then
      let form ← namedType g .either
      pure (form.hasBounds || form.hasDefinition)
    else if !visible && (← sees startsRule) then
      ruleCall false
      pure false
    else
      expectedOneOf ([.word "fn", .word "static", .word "type"] ++ if visible then [] else ruleStarts)
  if kept then keepSince begun

end Companion.Syntax
