import Companion.Syntax.Path

/-!
Bounds, generic parameters, and the clauses that bound types.

Parameters without bounds lose the colon behind them, and lists without parameters and clauses without bounds vanish.
Lifetimes are written in front of the other parameters.
-/

set_option autoImplicit false

namespace Companion.Syntax

open Companion.Syntax.Parser

inductive Parameter where
  | lifetime
  | other
  deriving DecidableEq, Repr

/-- Reads a colon and the bounds behind it, and writes them only if there is a bound. -/
def optionalBounds {α : Type} (separation : Separation) (item : Parser α) : Parser Unit := do
  let (_, colon) ← captured (optionalSign ":")
  if !colon.isEmpty then
    let found ← pieces separation item
    if !found.isEmpty then
      writeAll colon
      writeAll (found.flatMap (Piece.spelling separation.separator))

def boundsOnly : BoundRules := ⟨false, true⟩

def endsLifetimeBounds : Look := fun trees =>
  Look.atEnd trees || Look.sign "," trees || Look.sign ">" trees

def endsTypeBounds : Look := fun trees => endsLifetimeBounds trees || Look.sign "=" trees

def lifetimeParameter : Parser Parameter := do
  lifetime
  optionalBounds (.pluses endsLifetimeBounds) lifetime
  return .lifetime

def typeParameter (g : Grammar) : Parser Parameter := do
  let _ ← identifier
  optionalBounds (.pluses endsTypeBounds) (g.bound boundsOnly)
  if ← optionalSign "=" then
    let _ ← g.type true
  return .other

def valueParameter (g : Grammar) : Parser Parameter := do
  word "const"
  let _ ← identifier
  sign ":"
  let _ ← g.type true
  if ← optionalSign "=" then constantArgument g
  return .other

/-- A parameter of an item; a type may be left without a name. -/
def parameter (g : Grammar) : Parser Parameter := do
  let _ ← outerAttributes g
  if ← sees Look.lifetime then lifetimeParameter
  else if ← sees Look.identifier then typeParameter g
  else if ← sees (Look.word "const") then valueParameter g
  else if ← sees (Look.word "_") then
    let _ ← anyWord
    return .other
  else expectedOneOf [.lifetime, .identifier, .word "const"]

def binderParameter (g : Grammar) : Parser Parameter := do
  let _ ← outerAttributes g
  if ← sees Look.identifier then typeParameter g
  else if ← sees Look.lifetime then lifetimeParameter
  else if ← sees (Look.word "const") then valueParameter g
  else expectedOneOf [.identifier, .lifetime, .word "const"]

/-- The parameters of an item, if it has any; tells whether there is one. -/
def parameters (g : Grammar) : Parser Bool := do
  if ← sees (Look.sign "<") then
    unwritten (sign "<")
    let found ← pieces (.commasUpTo ">") (parameter g)
    unwritten (sign ">")
    if found.isEmpty then return false
    write "<"
    writeAll (reordered (· == .lifetime) found)
    write ">"
    return true
  return false

/-- A binder, which begins with `for`. -/
def binder (g : Grammar) : Parser Unit := do
  word "for"
  sign "<"
  let _ ← separated (.commasUpTo ">") (binderParameter g)
  sign ">"

/-- A binder, if there is one; tells whether it was there. -/
def optionalBinder (g : Grammar) : Parser Bool := do
  if ← sees (Look.word "for") then
    binder g
    return true
  return false

/-- Whether an angle behind a keyword opens parameters and not a path. -/
def opensParameters : Look := fun trees =>
  Look.sign "<" trees &&
    let inside := trees.drop 1
    (Look.sign ">" inside || Look.sign "#" inside || Look.word "const" inside ||
      ((Look.lifetime inside || Look.identifier inside) &&
        let behind := inside.drop 1
        ((Look.sign ":" behind && !Look.sign "::" behind) || Look.sign "," behind ||
          Look.sign ">" behind || Look.sign "=" behind)))

def capturedParameter : Parser Parameter := do
  if ← sees Look.lifetime then
    lifetime
    return .lifetime
  if ← sees (fun trees => Look.identifier trees || Look.word "Self" trees) then
    let _ ← anyWord
    return .other
  expectedOneOf [.lifetime, .identifier, .sign ">"]

def endsCapture : Look := fun trees =>
  Look.sign ">" trees

/-- The captured parameters, behind `use`. -/
def capturedParameters : Parser Unit := do
  word "use"
  sign "<"
  let found ← pieces ⟨endsCapture, Look.sign ",", ","⟩ capturedParameter
  writeAll (reordered (· == .lifetime) found)
  if ← sees (fun trees => !endsCapture trees) then expectedOneOf [.sign ",", .sign ">"]
  sign ">"

inductive Constness where
  | always
  | conditional
  deriving DecidableEq, Repr

def optionalConstness : Parser (Option (Constness × Position)) := do
  let place ← place
  if ← sees (Look.group .bracket) then
    group .bracket (word "const")
    return some (.conditional, place)
  if ← optionalWord "const" then return some (.always, place)
  return none

/-- The inputs and the result of a function, as arguments of a trait. Colons in front of them vanish. -/
def functionArguments (g : Grammar) : Parser Unit := do
  let _ ← unwritten (optionalSign "::")
  group .parenthesis do
    let _ ← separated .commas (g.type true)
  if ← optionalSign "->" then
    let _ ← g.type false

def startsFunctionArguments : Look := fun trees =>
  Look.group .parenthesis trees || (Look.sign "::" trees && Look.third (Look.group .parenthesis) trees)

/-- A trait as a bound, with the binder, the constness and the question mark in front of it. Tells whether constness was
asked for. -/
def traitBound (g : Grammar) (constnessAllowed : Bool) : Parser Bool := do
  let early ← optionalBinder g
  let constness ← optionalConstness
  match constness, constnessAllowed with
  | some (.conditional, place), false => broken place .noConditionalConst
  | some (.always, place), false => broken place .noConst
  | _, _ => pure ()
  let mark ← place
  let maybe ← optionalSign "?"
  let bound ← if !early && maybe then optionalBinder g else pure early
  let path ← path g .inType
  if path.endsBare then
    if ← sees startsFunctionArguments then functionArguments g
  if bound && maybe then broken mark .binderWithMaybe
  return constness.isSome

/-- A bound: a lifetime, captured parameters, or a trait that may stand between parentheses. Tells whether it is a
trait. A bound that asks for constness is kept as it stands. -/
def bound (g : Grammar) (rules : BoundRules) : Parser Bool := do
  if ← sees Look.lifetime then
    lifetime
    return false
  if ← sees (Look.word "use") then
    let place ← place
    capturedParameters
    if !rules.captures then broken place .noPreciseCapture
    return false
  let begun ← get
  let constness ←
    if ← sees (Look.group .parenthesis) then group .parenthesis (traitBound g rules.constness)
    else traitBound g rules.constness
  if constness then keepSince begun
  return true

def continuesBounds (rules : BoundRules) : Look := fun trees =>
  Look.anyWord trees || Look.sign "::" trees || Look.sign "?" trees || Look.lifetime trees ||
    Look.group .parenthesis trees || (rules.constness && Look.group .bracket trees)

/-- Bounds with plus signs between them, of which there is at least one. The argument tells whether more than one may
stand there. Tells whether there is a trait among them. -/
def bounds (g : Grammar) (several : Bool) (rules : BoundRules) : Parser Bool := do
  let found ← chain (bound g rules) do
    if several then
      if ← optionalSign "+" then sees (continuesBounds rules)
      else return false
    else return false
  return found.any id

def endsClause : Look := fun trees =>
  Look.atEnd trees || Look.group .brace trees || Look.sign "," trees || Look.sign ";" trees ||
    (Look.sign ":" trees && !Look.sign "::" trees) || Look.sign "=" trees

def clause (g : Grammar) : Parser Unit := do
  if ← sees (fun trees => Look.lifetime trees && Look.second (Look.sign ":") trees) then
    lifetime
    sign ":"
    let _ ← separated (.pluses fun trees => endsClause trees || Look.sign ":" trees) lifetime
  else
    let _ ← optionalBinder g
    let _ ← g.type true
    sign ":"
    let _ ← separated (.pluses endsClause) (bound g boundsOnly)

/-- The clauses behind `where`, if there are any. Tells whether the keyword was there. -/
def clauses (g : Grammar) : Parser Bool := do
  if ← sees (Look.word "where") then
    let (_, keyword) ← captured (word "where")
    if ← sees opensParameters then missing .genericClause
    let found ← pieces ⟨endsClause, Look.sign ",", ","⟩ (clause g)
    if !found.isEmpty then
      writeAll keyword
      writeAll (found.flatMap (Piece.spelling ","))
    return true
  return false

end Companion.Syntax
