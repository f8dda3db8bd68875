import Companion.Syntax.Expression

set_option autoImplicit false

namespace Companion.Syntax

open Companion.Syntax.Parser

/-- Whether a semicolon must stand behind a statement that is not the last one. -/
inductive StatementForm where
  | complete
  | needsSemicolon
  deriving DecidableEq, Repr

/-- Whether an item stands next. Calls of named rules are items only when a name follows their sign. -/
def startsItem : Look := fun trees =>
  Look.oneOf ["pub", "extern", "use", "fn", "mod", "type", "struct", "enum", "trait", "impl", "macro"] trees ||
    (Look.word "crate" trees && !Look.second (Look.sign "::") trees) ||
    (Look.word "static" trees && (Look.second (Look.word "mut") trees || Look.second Look.identifier trees)) ||
    (Look.word "const" trees && !startsConstantExpression trees.tail) ||
    (Look.word "unsafe" trees && !Look.second (Look.group .brace) trees) ||
    (Look.word "async" trees && Look.second (Look.oneOf ["unsafe", "extern", "fn"]) trees) ||
    (Look.word "union" trees && Look.second Look.identifier trees) ||
    (Look.word "auto" trees && Look.second (Look.word "trait") trees) ||
    (Look.word "default" trees && Look.second (Look.oneOf ["unsafe", "impl"]) trees)
where
  /-- Whether `const` began an expression, given what stands behind it. -/
  startsConstantExpression : Look := fun trees =>
    Look.group .brace trees || Look.oneOf ["static", "move"] trees || Look.sign "|" trees ||
      (Look.word "async" trees && !Look.second (Look.oneOf ["unsafe", "extern", "fn"]) trees)

/-- The ways in which a call of a named rule begins a statement. -/
inductive CallStart where
  /-- A name behind the sign makes it an item. -/
  | item
  /-- Braces behind the sign end the statement, unless the value is used. -/
  | braced
  deriving DecidableEq, Repr

def callStart : Parser (Option CallStart) := do
  let behind ← ahead do
    let _ ← namePath
    let stream ← get
    return stream.trees
  match behind with
  | none => return none
  | some trees =>
      if !Look.sign "!" trees then return none
      let inside := trees.drop 1
      if Look.identifier inside || Look.word "try" inside then return some .item
      let used := (Look.second (Look.sign ".") inside && !Look.second (Look.sign "..") inside) ||
        Look.second (Look.sign "?") inside
      if Look.group .brace inside && !used then return some .braced
      return none

def callStatement : Parser Unit := do
  let _ ← namePath
  sign "!"
  let _ ← rawGroup
  let _ ← optionalSign ";"

/-- Whether the last thing that was read is a group between braces. -/
def endsWithBrace : Parser Bool := do
  let stream ← get
  match stream.written with
  | word :: _ => return word.toList.getLast? == some '\x7d'
  | [] => return false

/-- A binding of names. A value that does not end with a brace may have an `else` behind it. -/
def bindingStatement (g : Grammar) : Parser Unit := do
  word "let"
  let _ ← g.singlePattern
  if ← optionalSign ":" then
    let _ ← g.type true
  if ← optionalSign "=" then
    freeExpression g
    if !(← endsWithBrace) then
      if ← optionalWord "else" then block g
  sign ";"

def expressionStatement (g : Grammar) : Parser StatementForm := do
  let form ← g.boundedExpression
  if ← optionalSign ";" then return .complete
  match form with
  | .block | .bracedCall => return .complete
  | _ => return .needsSemicolon

def statement (g : Grammar) : Parser StatementForm := do
  let begun ← get
  let (_, marks) ← captured (outerAttributes g)
  let start ← callStart
  if start == some .braced then
    writeAll marks
    callStatement
    return .complete
  if ← sees (Look.word "let") then
    writeAll marks
    bindingStatement g
    return .complete
  if (← sees startsItem) || start == some .item then
    set begun
    let _ ← g.item
    return .complete
  writeAll marks
  expressionStatement g

/-- The statements of a block. Semicolons may stand alone. -/
def statements (g : Grammar) : Parser Unit := do
  let _ ← collecting do
    if ← optionalSign ";" then return some ()
    if ← sees Look.atEnd then return none
    let form ← statement g
    if form == .needsSemicolon && !(← sees Look.atEnd) then broken (← place) .statementEnds
    return some ()

end Companion.Syntax
