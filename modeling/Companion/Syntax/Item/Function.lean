import Companion.Syntax.Type
import Companion.Syntax.Pattern

set_option autoImplicit false

namespace Companion.Syntax

open Companion.Syntax.Parser

/-- What is left behind a word, if it stands next. -/
def dropWord (text : String) (trees : List Tree) : List Tree :=
  if Look.word text trees then trees.drop 1 else trees

/-- What is left behind a calling convention, if it stands next. -/
def dropConvention (trees : List Tree) : List Tree :=
  if Look.word "extern" trees then
    let behind := trees.drop 1
    if Look.stringLiteral behind then behind.drop 1 else behind
  else trees

/-- Whether the words in front of a function, up to `fn`, stand next. Where functions of other languages are declared,
`safe` can be among them. -/
def startsSignature (safeAllowed : Bool) : Look := fun trees =>
  let trees := dropWord "async" (dropWord "const" trees)
  let trees :=
    if safeAllowed && Look.word "safe" trees then trees.drop 1 else dropWord "unsafe" trees
  Look.word "fn" (dropConvention trees)

inductive Input where
  /-- The value that a method belongs to, and where its keyword stands. -/
  | receiver (place : Position)
  | plain
  /-- The open end of the inputs. -/
  | openEnd
  deriving DecidableEq, Repr

def receiver (g : Grammar) : Parser Input := do
  let reference ← optionalSign "&"
  if reference then
    let _ ← optionalLifetime
  let _ ← optionalWord "mut"
  let place ← place
  word "self"
  if !reference then
    if ← optionalSign ":" then
      let _ ← g.type true
  return .receiver place

/-- An input other than a receiver. A generic type may stand without a pattern, which is then written as `_`. -/
def plainInput (g : Grammar) : Parser Input := do
  if ← sees (fun trees => Look.identifier trees && Look.second (Look.sign "<") trees) then
    writeAll ["_", ":"]
    let _ ← g.type true
    return .plain
  let _ ← g.singlePattern
  sign ":"
  if ← optionalSign "..." then return .openEnd
  let _ ← g.type true
  return .plain

def input (g : Grammar) : Parser Input := do
  let _ ← outerAttributes g
  if ← optionalSign "..." then return .openEnd
  match ← attempt (receiver g) with
  | some found => return found
  | none => plainInput g

/-- The inputs of a function, up to the end of their group. Only the first can be a receiver. -/
def inputs (g : Grammar) : Nat → (isFirst hasReceiver : Bool) → Parser Unit
  | 0, _, _ => pure ()
  | count + 1, isFirst, hasReceiver => do
      if ← sees Look.atEnd then return
      match ← input g with
      | .openEnd =>
          if ← sees Look.atEnd then return
          sign ","
      | .receiver place =>
          if hasReceiver then broken place .secondReceiver
          if !isFirst then broken place .lateReceiver
          further true count
      | .plain => further hasReceiver count
where
  /-- The comma behind an input, and the inputs behind it. -/
  further (hasReceiver : Bool) (count : Nat) : Parser Unit := do
    if ← sees Look.atEnd then return
    sign ","
    inputs g count false hasReceiver

/-- The signature of a function; gives its name, and tells whether the word `safe` stands in front. -/
def signature (g : Grammar) (safeAllowed : Bool) : Parser (String × Bool) := do
  let _ ← optionalWord "const"
  let _ ← optionalWord "async"
  let exempt ← optionalWord "unsafe"
  let safe ← if safeAllowed && !exempt then optionalWord "safe" else pure false
  optionalConvention
  word "fn"
  let name ← identifier
  let _ ← parameters g
  group .parenthesis fun stream => inputs g (stream.trees.length + 1) true false stream
  optionalResult g true
  let _ ← clauses g
  return (name, safe)

/-- The body of a function; gives the attributes at its start. -/
def body (g : Grammar) : Parser (List Attribute) :=
  group .brace do
    let attributes ← innerAttributes g
    g.statements
    return attributes

end Companion.Syntax
