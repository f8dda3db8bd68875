import Companion.Syntax.Expression.Control
import Companion.Syntax.Expression.Operator
import Companion.Syntax.Type

set_option autoImplicit false

namespace Companion.Syntax

open Companion.Syntax.Parser

/-- Where an expression stands. In the head of a block a brace does not begin the fields of a struct. -/
structure Surroundings where
  grammar : Grammar
  fieldsAllowed : Bool

def Surroundings.operand (here : Surroundings) : Parser ExpressionForm :=
  here.grammar.operand here.fieldsAllowed

def Surroundings.expression (here : Surroundings) : Parser ExpressionForm :=
  here.grammar.expression here.fieldsAllowed

def freeExpression (g : Grammar) : Parser Unit := do
  let _ ← g.expression true

def startsExpression : Look := fun trees =>
  Look.anyWord trees || Look.anyGroup trees || Look.literal trees ||
    (Look.sign "!" trees && !Look.sign "!=" trees) ||
    (Look.sign "-" trees && !Look.sign "-=" trees && !Look.sign "->" trees) ||
    (Look.sign "*" trees && !Look.sign "*=" trees) || (Look.sign "|" trees && !Look.sign "|=" trees) ||
    (Look.sign "&" trees && !Look.sign "&=" trees) || Look.sign ".." trees ||
    (Look.sign "<" trees && !Look.sign "<=" trees && !Look.sign "<<=" trees) || Look.sign "::" trees ||
    Look.lifetime trees || Look.sign "#" trees

def optionalExpression (g : Grammar) : Parser Unit := do
  if ← sees startsExpression then freeExpression g

/-- A field of a struct with its value, which can be left out behind a name. -/
def fieldValue (g : Grammar) : Parser Unit := do
  let _ ← outerAttributes g
  let named ← fieldName
  if (← sees (Look.sign ":")) || !named then
    sign ":"
    freeExpression g

/-- The fields of a struct, up to two dots or the end of their group. -/
def fieldValues (g : Grammar) : Nat → Parser Unit
  | 0 => pure ()
  | count + 1 => do
      if ← sees Look.atEnd then return
      if ← optionalSign ".." then
        if ← sees (fun trees => !trees.isEmpty) then freeExpression g
      else
        fieldValue g
        if ← sees Look.atEnd then return
        sign ","
        fieldValues g count

/-- A path, a call of a named rule, or a struct with its fields. -/
def pathExpression (here : Surroundings) : Parser ExpressionForm := do
  let g := here.grammar
  let form ← qualifiedPath g .inExpression
  let isBare := match form with
    | some form => form.isBare
    | none => false
  if (← sees startsCall) && isBare then
    if (← callRest) == .brace then return .bracedCall
    return .other
  if here.fieldsAllowed && (← sees (Look.group .brace)) then
    group .brace fun stream => fieldValues g (stream.trees.length + 1) stream
  return .other

def tuple (g : Grammar) : Parser Unit := do
  let _ ← group .parenthesis (separated .commas (g.expression true))

/-- An array: its values, or one value and how often it is repeated. -/
def array (g : Grammar) : Parser Unit :=
  group .bracket do
    if ← sees (fun trees => !trees.isEmpty) then
      freeExpression g
      if ← sees (fun trees => trees.isEmpty || Look.sign "," trees) then
        if ← optionalSign "," then
          let _ ← separated .commas (g.expression true)
      else if ← sees (Look.sign ";") then
        sign ";"
        freeExpression g
      else missing .commaOrSemicolon

def loopExit (here : Surroundings) : Parser Unit := do
  word "break"
  let label ← place
  if ← sees (fun trees => Look.lifetime trees && Look.second (Look.sign ":") trees) then
    freeExpression here.grammar
    broken label .parenthesesRequired
  let _ ← optionalLifetime
  if (← sees startsExpression) && (here.fieldsAllowed || !(← sees (Look.group .brace))) then
    freeExpression here.grammar

def jump (g : Grammar) (keyword : String) : Parser Unit := do
  word keyword
  optionalExpression g

def startsClosure : Look := fun trees =>
  Look.sign "|" trees || Look.word "move" trees ||
    (Look.word "for" trees && Look.second (Look.sign "<") trees &&
      (Look.third Look.lifetime trees || Look.third (Look.sign ">") trees)) ||
    (Look.word "const" trees && !Look.second (Look.group .brace) trees) || Look.word "static" trees ||
    (Look.word "async" trees && (Look.second (Look.sign "|") trees || Look.second (Look.word "move") trees))

def closureInput (g : Grammar) : Parser Unit := do
  let _ ← outerAttributes g
  let _ ← g.singlePattern
  if ← optionalSign ":" then
    let _ ← g.type true

/-- A closure. One that names its result has a block as its body. -/
def closure (here : Surroundings) : Parser Unit := do
  let g := here.grammar
  let _ ← optionalBinder g
  for keyword in ["const", "static", "async", "move"] do
    let _ ← optionalWord keyword
  sign "|"
  let _ ← separated (.commasUpTo "|") (closureInput g)
  sign "|"
  if ← optionalSign "->" then
    let _ ← g.type true
    block g
  else
    let _ ← here.expression

/-- Whether the upper end of a half-open range is left out. -/
def lacksUpperEnd (fieldsAllowed : Bool) : Look := fun trees =>
  Look.atEnd trees || Look.sign "," trees || Look.sign ";" trees ||
    (Look.sign "." trees && !Look.sign ".." trees) || Look.sign "?" trees || Look.sign "=>" trees ||
    (!fieldsAllowed && Look.group .brace trees) || Look.sign "=" trees || Look.sign "+" trees ||
    Look.sign "/" trees || Look.sign "%" trees || Look.sign "^" trees || Look.sign ">" trees ||
    Look.sign "<=" trees || Look.sign "!=" trees || Look.sign "-=" trees || Look.sign "*=" trees ||
    Look.sign "&=" trees || Look.sign "|=" trees || Look.sign "<<=" trees || Look.word "as" trees

def behindCast (trees : List Tree) : Option String :=
  if Look.sign "." trees && !Look.sign ".." trees then
    if Look.second (Look.word "await") trees then some "`.await`"
    else if Look.second Look.identifier trees &&
        (Look.third (Look.group .parenthesis) trees || Look.third (Look.sign "::") trees) then
      some "a method call"
    else some "a field access"
  else if Look.sign "?" trees then some "`?`"
  else if Look.group .bracket trees then some "indexing"
  else if Look.group .parenthesis trees then some "a function call"
  else none

def castRest (g : Grammar) : Parser Unit := do
  word "as"
  let _ ← g.type false
  let stream ← get
  match behindCast stream.trees with
  | some what => missing (.castFollowedBy what)
  | none => pure ()

mutual

/-- The operators behind a value that bind at least as strongly as `base`, with their right sides. -/
def operatorsWithin (here : Surroundings) :
    Nat → ExpressionForm → Precedence → Parser ExpressionForm
  | 0, left, _ => pure left
  | fuel + 1, left, base => do
      if left.isRange then return left
      let stream ← get
      match Operator.next? stream.trees with
      | some operator =>
          if operator.precedence.binds base then return left
          if operator.precedence == .comparison && left == .comparison then missing .chainedComparison
          sign operator.signs
          rightSideWithin here fuel operator.precedence
          let form := if operator.precedence == .comparison then .comparison else .other
          operatorsWithin here fuel form base
      | none =>
          if !Precedence.binds .assignment base && startsAssignment stream.trees then
            sign "="
            rightSideWithin here fuel .assignment
            operatorsWithin here fuel .other base
          else if !Precedence.binds .range base && Look.sign ".." stream.trees then
            let dots ← place
            let limits ← rangeDots
            upperEndWithin here fuel limits
            operatorsWithin here fuel (.range dots) base
          else if !Precedence.binds .cast base && Look.word "as" stream.trees then
            castRest here.grammar
            operatorsWithin here fuel .other base
          else return left

/-- The right side of an operator: a value, and the operators behind it that bind more strongly. Assignments take
further assignments on their right. -/
def rightSideWithin (here : Surroundings) :
    Nat → Precedence → Parser Unit
  | 0, _ => pure ()
  | fuel + 1, precedence => do
      let first ← here.operand
      strongerWithin here fuel first precedence

/-- The operators behind a value that bind more strongly than the one in front of it. -/
def strongerWithin (here : Surroundings) :
    Nat → ExpressionForm → Precedence → Parser Unit
  | 0, _, _ => pure ()
  | fuel + 1, left, precedence => do
      let stream ← get
      let next := nextPrecedence stream.trees
      if precedence.binds next || (next == precedence && precedence == .assignment) then
        let form ← operatorsWithin here fuel left next
        let behind ← get
        if behind.trees.length != stream.trees.length then
          strongerWithin here fuel form precedence

def upperEndWithin (here : Surroundings) :
    Nat → RangeLimits → Parser Unit
  | 0, _ => pure ()
  | fuel + 1, limits => do
      if limits == .halfOpen && (← sees (lacksUpperEnd here.fieldsAllowed)) then return
      rightSideWithin here fuel .range

end

/-- How many steps the operators behind a value can take. -/
def operatorFuel (stream : Stream) : Nat := 4 * stream.trees.length + 4

def operators (here : Surroundings) (left : ExpressionForm) :
    Parser ExpressionForm := fun stream =>
  operatorsWithin here (operatorFuel stream) left .weakest stream

/-- The operators behind a value that bind at least as strongly as comparisons. -/
def comparisons (here : Surroundings) (left : ExpressionForm) :
    Parser ExpressionForm := fun stream =>
  operatorsWithin here (operatorFuel stream) left .comparison stream

def upperEnd (here : Surroundings) (limits : RangeLimits) : Parser Unit :=
  fun stream => upperEndWithin here (operatorFuel stream) limits stream

def condition (here : Surroundings) : Parser Unit := do
  word "let"
  let _ ← here.grammar.pattern
  sign "="
  let _ ← comparisons here (← here.operand)

/-- The number of an element, as part of a number with a point. -/
def elementIndex (place : Position) (text : List Char) : Except SyntaxError Nat :=
  if Literal.isWhole text then
    let (value, suffix) := Literal.wholeValue text
    if !suffix.isEmpty then .error ⟨place, .broken .suffixedIndex⟩
    else if 0x100000000 ≤ value then .error ⟨place, .broken .largeIndex⟩
    else .ok value
  else .error ⟨place, .broken .wholeNumberExpected⟩

/-- The numbers of elements of elements, which the lexer took for one number with a point. Tells whether a name must
follow, because the number ends with the point. -/
def elementIndices : Parser Bool := fun stream =>
  match stream.trees with
  | .literal text place :: rest => do
      let parts := Text.splitChars (· == '.') text.toList
      let open_ := text.toList.getLast? == some '.'
      let parts := if open_ then parts.dropLast else parts
      let indices ← parts.mapM (elementIndex place)
      let words := indices.map toString
      let words := words.intersperse "."
      let words := if open_ then words ++ ["."] else words
      return (open_, { stream with trees := rest, written := words.reverse ++ stream.written })
  | _ => .ok (true, stream)

def startsElementIndices : Look
  | .literal text _ :: _ => Literal.isFloat text.toList
  | _ => false

def member (g : Grammar) : Parser Unit := do
  if ← optionalWord "await" then return
  let named ← fieldName
  let arguments ←
    if named && (← sees (Look.sign "::")) then
      sign "::"
      let _ ← angleArguments g
      pure true
    else pure false
  if named && (arguments || (← sees (Look.group .parenthesis))) then tuple g

/-- What follows a value, up to the first thing that does not belong to it: arguments, elements, methods, indices and
question marks. -/
def trailers (g : Grammar) (first : ExpressionForm) : Parser ExpressionForm := do
  let behind ← collecting step
  return if behind.isEmpty then first else .other
where
  /-- One of the things that follow a value. -/
  step : Parser (Option Unit) := do
    if ← sees (Look.group .parenthesis) then
      tuple g
      return some ()
    if ← sees (fun trees => Look.sign "." trees && !Look.sign ".." trees && !first.isRange) then
      sign "."
      let goesOn ← if ← sees startsElementIndices then elementIndices else pure true
      if goesOn then member g
      return some ()
    if ← sees (Look.group .bracket) then
      group .bracket (freeExpression g)
      return some ()
    if ← sees (fun trees => Look.sign "?" trees && !first.isRange) then
      sign "?"
      return some ()
    return none

/-- A function that the compiler provides, with arguments that are kept as they stand. -/
def providedFunction : Parser Unit := do
  let begun ← get
  word "builtin"
  sign "#"
  let _ ← identifier
  group .parenthesis remainder
  keepSince begun

def startsAsyncBlock : Look := fun trees =>
  Look.word "async" trees &&
    (Look.second (Look.group .brace) trees ||
      (Look.second (Look.word "move") trees && Look.third (Look.group .brace) trees))

/-- Whether a path stands next that is a value or a call. -/
def startsPathExpression : Look := fun trees =>
  Look.identifier trees || Look.sign "::" trees || Look.sign "<" trees ||
    Look.oneOf ["self", "Self", "super", "crate"] trees ||
    (Look.word "try" trees && (Look.second (Look.sign "!") trees || Look.second (Look.sign "::") trees))

/-- The expressions that begin with a keyword and end with a block. -/
def controlExpression (g : Grammar) : Parser (Option Unit) := do
  if ← sees (Look.word "if") then some <$> branch g
  else if ← sees (Look.word "while") then some <$> conditionalLoop g
  else if ← sees (Look.word "for") then some <$> iteration g
  else if ← sees (Look.word "loop") then some <$> endlessLoop g
  else if ← sees (Look.word "match") then some <$> choice g
  else return none

def atom (here : Surroundings) : Parser ExpressionForm := do
  let g := here.grammar
  if ← sees Look.literal then
    literal
    return .other
  if ← sees startsAsyncBlock then
    word "async"
    let _ ← optionalWord "move"
    block g
    return .other
  if ← sees (fun trees => Look.word "try" trees && Look.second (Look.group .brace) trees) then
    keywordBlock g "try" false
    return .block
  if ← sees startsClosure then
    closure here
    return .other
  if ← sees (fun trees => Look.word "builtin" trees && Look.second (Look.sign "#") trees) then
    providedFunction
    return .other
  if ← sees startsPathExpression then return ← pathExpression here
  if ← sees (Look.group .parenthesis) then
    tuple g
    return .other
  if ← sees (Look.word "break") then
    loopExit here
    return .other
  if ← sees (Look.word "continue") then
    word "continue"
    let _ ← optionalLifetime
    return .other
  if ← sees (Look.word "return") then
    jump g "return"
    return .other
  if ← sees (Look.word "become") then
    let begun ← get
    word "become"
    freeExpression g
    keepSince begun
    return .other
  if ← sees (Look.group .bracket) then
    array g
    return .other
  if ← sees (Look.word "let") then
    condition here
    return .other
  if let some () ← controlExpression g then return .block
  if ← sees (Look.word "yield") then
    jump g "yield"
    return .other
  if ← sees (Look.word "unsafe") then
    keywordBlock g "unsafe" true
    return .block
  if ← sees (Look.word "const") then
    keywordBlock g "const" true
    return .block
  if ← sees (Look.group .brace) then
    blockWithAttributes g
    return .block
  if ← sees (Look.sign "..") then
    let dots ← place
    let limits ← rangeDots
    upperEnd here limits
    return .range dots
  if ← sees (Look.word "_") then
    underscore
    return .other
  if ← sees Look.lifetime then
    labelled g
    return .block
  missing .expressionExpected

/-- A value with the operators in front of it and what stands behind it. -/
def operand (here : Surroundings) : Parser ExpressionForm := do
  let marks ← outerAttributes here.grammar
  if ← sees (Look.sign "&") then
    sign "&"
    let raw ← sees fun trees =>
      Look.word "raw" trees && Look.second (Look.oneOf ["mut", "const"]) trees
    if raw then word "raw"
    let mutable ← optionalWord "mut"
    if raw && !mutable then word "const"
    let _ ← here.operand
    return .other
  if ← sees (fun trees => Look.sign "*" trees || Look.sign "!" trees || Look.sign "-" trees) then
    if ← optionalSign "*" then pure ()
    else if ← optionalSign "!" then pure ()
    else sign "-"
    let _ ← here.operand
    return .other
  let form ← trailers here.grammar (← atom here)
  match form, marks with
  | .range dots, _ :: _ => broken dots .attributeOnRange
  | _, _ => return form

def expression (g : Grammar) (fieldsAllowed : Bool) : Parser ExpressionForm := do
  let here : Surroundings := ⟨g, fieldsAllowed⟩
  operators here (← operand here)

/-- Whether a block, or an expression that ends with one, stands next at the start of a statement. -/
def startsBlockExpression : Look := fun trees =>
  Look.oneOf ["if", "while", "loop", "match", "unsafe"] trees || Look.group .brace trees ||
    (Look.oneOf ["try", "const"] trees && Look.second (Look.group .brace) trees) ||
    (Look.word "for" trees &&
      !(Look.second (Look.sign "<") trees &&
        (Look.third Look.lifetime trees || Look.third (Look.sign ">") trees)))

/-- An expression that ends behind the block that it begins with, unless a point or a question mark follows. -/
def boundedExpression (g : Grammar) : Parser ExpressionForm := do
  let here : Surroundings := ⟨g, true⟩
  let _ ← outerAttributes g
  let form ←
    if ← sees Look.lifetime then
      labelled g
      pure .block
    else if ← sees startsBlockExpression then atom here
    else operand here
  if form != .block then return ← operators here form
  if ← sees (fun trees => (Look.sign "." trees && !Look.sign ".." trees) || Look.sign "?" trees) then
    operators here (← trailers g form)
  else return form

end Companion.Syntax
