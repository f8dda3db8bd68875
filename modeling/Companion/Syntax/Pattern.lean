import Companion.Syntax.Path

/-!
Patterns. A range with three dots is written with `..=`, which means the same.
-/

set_option autoImplicit false

namespace Companion.Syntax

open Companion.Syntax.Parser

/-- A call of a named rule, behind the name. Tells the delimiter. -/
def callRest : Parser Delimiter := do
  sign "!"
  rawGroup

def startsCall : Look := fun trees => Look.sign "!" trees && !Look.sign "!=" trees

/-- Whether the dots of a range have an upper end that belongs to it. -/
inductive RangeLimits where
  | halfOpen
  | closed
  deriving DecidableEq, Repr

def rangeDots : Parser RangeLimits := do
  if ← sees (Look.sign "..=") then
    sign "..="
    return .closed
  if ← sees (fun trees => Look.sign ".." trees && !Look.sign "..." trees) then
    sign ".."
    return .halfOpen
  expectedOneOf [.sign "..", .sign "..="]

/-- The dots of a range in a pattern, where three dots may stand for `..=`. -/
def patternDots : Parser RangeLimits := do
  if ← sees (Look.sign "...") then
    unwritten (sign "...")
    write "..="
    return .closed
  rangeDots

def lacksRangeEnd : Look := fun trees =>
  Look.atEnd trees || Look.sign "|" trees || Look.sign "=" trees ||
    (Look.sign ":" trees && !Look.sign "::" trees) || Look.sign "," trees || Look.sign ";" trees ||
    Look.word "if" trees

/-- A value in a pattern: a literal, a path, or a constant block. -/
def patternValue (g : Grammar) : Parser Unit := do
  if ← sees Look.literal then literal
  else if ← sees startsValuePath then
    let _ ← qualifiedPath g .inExpression
  else if ← sees (Look.word "const") then
    word "const"
    blockWithAttributes g
  else
    expectedOneOf [.literal, .identifier, .sign "::", .sign "<", .word "self", .word "Self", .word "super",
      .word "crate", .word "const"]
where
  /-- Whether a path stands next that may be a value. -/
  startsValuePath : Look := fun trees =>
    Look.identifier trees || Look.sign "::" trees || Look.sign "<" trees ||
      Look.oneOf ["self", "Self", "super", "crate"] trees

/-- The end of a range in a pattern; tells whether there is one. -/
def rangeEnd (g : Grammar) : Parser Bool := do
  if ← sees lacksRangeEnd then return false
  patternValue g
  return true

def rangeRest (g : Grammar) : Parser PatternForm := do
  let dots ← place
  let limits ← patternDots
  if ← rangeEnd g then return .other
  if limits == .closed then missing .rangeUpperBound
  return .openRange dots

/-- A range in a pattern that has no start. Two dots alone are no range. -/
def startlessRange (g : Grammar) : Parser PatternForm := do
  let dots ← place
  let limits ← rangeDots
  if ← rangeEnd g then return .openRange dots
  if limits == .closed then missing .rangeUpperBound
  return .other

/-- The name of a field: an identifier or a number. Tells whether it is an identifier. A number is written without
leading zeros. -/
def fieldName : Parser Bool := do
  if ← sees Look.identifier then
    let _ ← identifier
    return true
  if ← sees startsWhole then
    fieldIndex
    return false
  missing .memberExpected
where
  /-- Whether a whole number stands next. -/
  startsWhole : Look
    | .literal text _ :: _ => Literal.isWhole text.toList
    | _ => false
  /-- A number as the name of a field. -/
  fieldIndex : Parser Unit := fun stream =>
    match stream.trees with
    | .literal text place :: rest =>
        let (value, suffix) := Literal.wholeValue text.toList
        if !suffix.isEmpty then .error ⟨place, .broken .suffixedIndex⟩
        else if 0x100000000 ≤ value then .error ⟨place, .broken .largeIndex⟩
        else .ok ((), { stream with trees := rest, written := toString value :: stream.written })
    | _ => missing .memberExpected stream

def fieldPattern (g : Grammar) : Parser Unit := do
  let begun ← get
  let boxed ← optionalWord "box"
  let reference ← optionalWord "ref"
  let mutable ← optionalWord "mut"
  if boxed || reference || mutable then
    let _ ← identifier
    if boxed then keepSince begun
  else
    let named ← fieldName
    if (← sees (Look.sign ":")) || !named then
      sign ":"
      let _ ← g.pattern

/-- The fields of a pattern for a struct, up to two dots or the end of their group. -/
def fieldPatterns (g : Grammar) : Nat → Parser Unit
  | 0 => pure ()
  | count + 1 => do
      if ← sees Look.atEnd then return
      let _ ← outerAttributes g
      if ← sees (Look.sign "..") then sign ".."
      else
        fieldPattern g
        if ← sees Look.atEnd then return
        sign ","
        fieldPatterns g count

def pathPattern (g : Grammar) : Parser PatternForm := do
  let form ← qualifiedPath g .inExpression
  let isBare := match form with
    | some form => form.isBare
    | none => false
  if (← sees startsCall) && isBare then
    let _ ← callRest
    return .other
  if ← sees (Look.group .brace) then
    group .brace fun stream => fieldPatterns g (stream.trees.length + 1) stream
    return .other
  if ← sees (Look.group .parenthesis) then
    let _ ← group .parenthesis (separated .commas g.pattern)
    return .other
  if ← sees (Look.sign "..") then rangeRest g
  else return .other

def valuePattern (g : Grammar) : Parser PatternForm := do
  patternValue g
  if ← sees (Look.sign "..") then rangeRest g
  else return .other

def startsOfPattern : List Alternative :=
  [.identifier, .sign "::", .sign "<", .word "_", .literal, .word "const", .word "ref", .word "mut", .sign "&",
    .group .parenthesis, .group .bracket, .sign "..", .word "const"]

def startsPathPattern : Look := fun trees =>
  (Look.identifier trees &&
      let behind := trees.drop 1
      (Look.sign "::" behind || Look.sign "!" behind || Look.group .brace behind ||
        Look.group .parenthesis behind || Look.sign ".." behind)) ||
    (Look.word "self" trees && Look.second (Look.sign "::") trees) || Look.sign "::" trees ||
    Look.sign "<" trees || Look.oneOf ["Self", "super", "crate"] trees

/-- The elements of a slice pattern, among which no range may lack an end. -/
def slicePattern (g : Grammar) : Parser Unit := do
  let _ ← group .bracket <| separated .commas do
    match ← g.pattern with
    | .openRange dots => broken dots .openRangeInSlice
    | .other => pure ()

def singlePattern (g : Grammar) : Parser PatternForm := do
  if ← sees startsPathPattern then pathPattern g
  else if ← sees (Look.word "_") then
    underscore
    return .other
  else if ← sees (Look.word "box") then
    let begun ← get
    word "box"
    let _ ← g.singlePattern
    keepSince begun
    return .other
  else if ← sees startsValue then valuePattern g
  else if ← sees startsBinding then
    let _ ← optionalWord "ref"
    let _ ← optionalWord "mut"
    let _ ← if ← sees (Look.word "self") then anyWord else identifier
    if ← optionalSign "@" then
      let _ ← g.singlePattern
    return .other
  else if ← sees (Look.sign "&") then
    sign "&"
    let _ ← optionalWord "mut"
    let _ ← g.singlePattern
    return .other
  else if ← sees (Look.group .parenthesis) then
    let _ ← group .parenthesis (separated .commas g.pattern)
    return .other
  else if ← sees (Look.group .bracket) then
    slicePattern g
    return .other
  else if ← sees (fun trees => Look.sign ".." trees && !Look.sign "..." trees) then startlessRange g
  else expectedOneOf startsOfPattern
where
  /-- Whether a value stands next. -/
  startsValue : Look := fun trees =>
    Look.sign "-" trees || Look.literal trees || Look.word "const" trees
  /-- Whether the binding of a name stands next. -/
  startsBinding : Look := fun trees =>
    Look.oneOf ["ref", "mut", "self"] trees || Look.identifier trees

def startsBar : Look := fun trees =>
  Look.sign "|" trees && !Look.sign "||" trees && !Look.sign "|=" trees

/-- Patterns between vertical bars; one may stand in front. -/
def patterns (g : Grammar) : Parser PatternForm := do
  let leading ← optionalSign "|"
  let first ← g.singlePattern
  if leading || (← sees startsBar) then
    let _ ← itemsWhile startsBar do
      sign "|"
      g.singlePattern
    return .other
  return first

end Companion.Syntax
