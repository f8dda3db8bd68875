import Companion.Syntax.Generics

set_option autoImplicit false

namespace Companion.Syntax

open Companion.Syntax.Parser

def spelledType (shape : TypeShape) (parser : Parser Unit) : Parser TypeForm := do
  let (_, words) ← captured parser
  writeAll words
  return .spelled words shape

/-- The result of a function; the argument tells whether a list of bounds may follow a first one. -/
def optionalResult (g : Grammar) (several : Bool) : Parser Unit := do
  if ← optionalSign "->" then
    let _ ← g.type several

def optionalConvention : Parser Unit := do
  if ← optionalWord "extern" then
    if ← sees Look.stringLiteral then stringLiteral

/-- Whether a name with a colon behind it stands next. -/
def startsNamed (isName : Look) : Look := fun trees =>
  isName trees && Look.second (Look.sign ":") trees && !Look.second (Look.sign "::") trees

/-- Whether an identifier or `_` stands next. -/
def identifierOrBlank : Look := fun trees => Look.identifier trees || Look.word "_" trees

/-- Whether the open end of a list of inputs stands next. -/
def startsOpenEnd : Look := fun trees =>
  Look.sign "..." trees ||
    (identifierOrBlank trees && Look.second (Look.sign ":") trees && Look.third (Look.sign "...") trees)

def openEnd : Parser Unit := do
  if ← sees identifierOrBlank then
    let _ ← anyWord
    sign ":"
  sign "..."
  let _ ← optionalSign ","

/-- An input of a function pointer. Only the first can be `self`, also in the form `mut self`. -/
def pointerInput (g : Grammar) (isFirst : Bool) : Parser Unit := do
  let begun ← get
  let mutable ←
    if isFirst then
      if ← sees (fun trees => Look.word "mut" trees && Look.second (Look.word "self") trees) then
        word "mut"
        pure true
      else pure false
    else pure false
  let isName : Look := fun trees => identifierOrBlank trees || (isFirst && Look.word "self" trees)
  let named ← sees (startsNamed isName)
  if named then
    let _ ← anyWord
    sign ":"
  if mutable && !named then word "self"
  else
    let _ ← g.type true
  if mutable then keepSince begun

def pointerInputs (g : Grammar) : Nat → Bool → Parser Unit
  | 0, _ => pure ()
  | count + 1, isFirst => do
      if ← sees Look.atEnd then return
      let _ ← outerAttributes g
      if ← sees startsOpenEnd then openEnd
      else
        pointerInput g isFirst
        if ← sees Look.atEnd then return
        sign ","
        pointerInputs g count false

def functionPointer (g : Grammar) : Parser Unit := do
  let _ ← optionalBinder g
  let _ ← optionalWord "unsafe"
  optionalConvention
  word "fn"
  group .parenthesis fun stream => pointerInputs g (stream.trees.length + 1) true stream
  optionalResult g false

/-- The bounds of a trait object; the place is where a complaint about it points to. -/
def objectBounds (g : Grammar) (several : Bool) (place : Position) : Parser Unit := do
  if !(← bounds g several ⟨false, false⟩) then broken place .objectNeedsTrait

def furtherBounds (g : Grammar) : Parser Unit := do
  let _ ← itemsWhile (Look.sign "+") do
    sign "+"
    bound g ⟨false, false⟩

def tupleRest (g : Grammar) : Parser Unit := do
  sign ","
  let _ ← separated .commas (g.type true)

/-- What stands between the parentheses of a type. -/
inductive Enclosed where
  | tuple
  | parenthesized (form : TypeForm)
  /-- A bound with a question mark. -/
  | maybe

def enclosed (g : Grammar) : Parser Enclosed := do
  if ← sees Look.atEnd then return .tuple
  if ← sees Look.lifetime then
    let place ← place
    let form ← spelledType .other (objectBounds g true place)
    return .parenthesized { form with shape := .other }
  if ← sees (Look.sign "?") then
    let _ ← traitBound g false
    return .maybe
  let form ← g.type true
  if ← sees (Look.sign ",") then
    tupleRest g
    return .tuple
  return .parenthesized form

/-- A type that begins with a parenthesis: a tuple, a type between parentheses, or a list of bounds whose first one
stands between parentheses. -/
def parenthesizedType (g : Grammar) (several : Bool) : Parser TypeForm := do
  let (form, words) ← captured do
    match ← group .parenthesis (enclosed g) with
    | .tuple => return none
    | .maybe =>
        furtherBounds g
        return none
    | .parenthesized form =>
        let isBound := match form.shape with
          | .path _ _ | .bareTrait => true
          | .other => false
        if isBound && several then
          if ← sees (Look.sign "+") then
            furtherBounds g
            return none
        return some form
  writeAll words
  match form with
  | some form => return ⟨.parenthesized form.type, .other⟩
  | none => return .spelled words .other

/-- A path as a type, a call of a named rule, or a list of bounds that begins with a path. `hasBinder` tells whether
a binder stands in front. -/
def pathType (g : Grammar) (several hasBinder : Bool) : Parser TypeForm := do
  let (form, words) ← captured (qualifiedPath g .inType)
  let spelling := String.intercalate " " words
  match form with
  | none =>
      writeAll words
      return ⟨.other spelling, .other⟩
  | some form =>
      let startsCall : Look := fun trees => Look.sign "!" trees && !Look.sign "!=" trees
      if (← sees startsCall) && form.isBare then
        spelledType .other do
          writeAll words
          sign "!"
          let _ ← rawGroup
      else
        let more := several && (← sees (Look.sign "+"))
        if hasBinder || more then
          let (shape, all) ← captured do
            writeAll words
            if more then further else return TypeShape.bareTrait
          writeAll all
          return .spelled all shape
        writeAll words
        return ⟨form.type spelling, .path form.absolute form.segments.length⟩
where
  /-- The bounds behind a first one. -/
  further : Parser TypeShape := do
    let _ ← itemsWhile (Look.sign "+") do
      sign "+"
      if ← sees (continuesBounds ⟨false, false⟩) then
        let _ ← bound g ⟨false, false⟩
    return .other

def bracketedType (g : Grammar) : Parser Unit :=
  group .bracket do
    let _ ← g.type true
    if ← optionalSign ";" then
      let _ ← g.expression true

def pointerType (g : Grammar) : Parser Unit := do
  sign "*"
  if ← sees (Look.word "const") then word "const"
  else if ← sees (Look.word "mut") then word "mut"
  else expectedOneOf [.word "const", .word "mut"]
  let _ ← g.type false

def referenceType (g : Grammar) : Parser Unit := do
  sign "&"
  let _ ← optionalLifetime
  let _ ← optionalWord "mut"
  let _ ← g.type false

def boundedType (g : Grammar) (several : Bool) : Parser Unit := do
  let place ← place
  word "impl"
  if !(← bounds g several ⟨true, true⟩) then broken place .bareImplNeedsTrait

/-- A trait object with its keyword. A star behind the keyword is kept as it stands. -/
def objectType (g : Grammar) (several : Bool) : Parser Unit := do
  let begun ← get
  let place ← place
  word "dyn"
  let star ← optionalSign "*"
  objectBounds g several place
  if star then keepSince begun

def behindBinder : List Alternative :=
  [.identifier, .word "fn", .word "unsafe", .word "extern", .word "super", .word "self", .word "Self",
    .word "crate"]

def startsOfType : List Alternative :=
  [.word "for", .group .parenthesis, .word "fn", .word "unsafe", .word "extern", .identifier, .word "super",
    .word "self", .word "Self", .word "crate", .sign "::", .sign "<", .word "dyn", .group .bracket, .sign "*",
    .sign "&", .sign "!", .word "impl", .word "_", .lifetime]

def startsPath : Look := fun trees =>
  Look.identifier trees || Look.oneOf ["super", "self", "Self", "crate"] trees || Look.sign "::" trees ||
    Look.sign "<" trees

/-- A type behind a binder: a function pointer or a trait. -/
def boundType (g : Grammar) (several : Bool) : Parser TypeForm := do
  let (shape, words) ← captured do
    binder g
    if ← sees (Look.oneOf ["fn", "unsafe", "extern"]) then
      functionPointer g
      return TypeShape.other
    if ← sees (fun trees => behindBinder.any fun other => other.look trees) then
      return (← pathType g several true).shape
    expectedOneOf behindBinder
  writeAll words
  return .spelled words shape

/-- A type. `several` tells whether a list of bounds may follow a first one. -/
def type (g : Grammar) (several : Bool) : Parser TypeForm := do
  let spelled := spelledType .other
  if ← sees (Look.word "for") then boundType g several
  else if ← sees (Look.group .parenthesis) then parenthesizedType g several
  else if ← sees (Look.oneOf ["fn", "unsafe", "extern"]) then spelled (functionPointer g)
  else if ← sees startsPath then pathType g several false
  else if ← sees (Look.word "dyn") then spelled (objectType g several)
  else if ← sees (Look.group .bracket) then spelled (bracketedType g)
  else if ← sees (Look.sign "*") then spelled (pointerType g)
  else if ← sees (Look.sign "&") then spelled (referenceType g)
  else if ← sees (fun trees => Look.sign "!" trees && !Look.sign "=" trees) then spelled (sign "!")
  else if ← sees (Look.word "impl") then spelled (boundedType g several)
  else if ← sees (Look.word "_") then spelled underscore
  else if ← sees Look.lifetime then
    let place ← place
    spelled (objectBounds g true place)
  else expectedOneOf startsOfType

end Companion.Syntax
