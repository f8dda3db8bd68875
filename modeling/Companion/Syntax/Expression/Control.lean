import Companion.Syntax.Generics
import Companion.Syntax.Pattern

set_option autoImplicit false

namespace Companion.Syntax

open Companion.Syntax.Parser

def optionalLabel : Parser Unit := do
  if ← optionalLifetime then sign ":"

/-- A condition or a subject, behind which a brace begins a block. -/
def headExpression (g : Grammar) : Parser Unit := do
  let _ ← g.expression false

/-- A branch with the branches behind `else`, of which `count` may follow. -/
def branches (g : Grammar) : Nat → Parser Unit
  | 0 => pure ()
  | count + 1 => do
      word "if"
      headExpression g
      block g
      if ← optionalWord "else" then
        if ← sees (Look.word "if") then branches g count
        else if ← sees (Look.group .brace) then block g
        else expectedOneOf [.word "if", .group .brace]

def branch (g : Grammar) : Parser Unit := fun stream => branches g (stream.trees.length + 1) stream

def iteration (g : Grammar) : Parser Unit := do
  optionalLabel
  word "for"
  let _ ← g.pattern
  word "in"
  headExpression g
  blockWithAttributes g

def endlessLoop (g : Grammar) : Parser Unit := do
  optionalLabel
  word "loop"
  blockWithAttributes g

def conditionalLoop (g : Grammar) : Parser Unit := do
  optionalLabel
  word "while"
  headExpression g
  blockWithAttributes g

def labelledBlock (g : Grammar) : Parser Unit := do
  optionalLabel
  blockWithAttributes g

def labelled (g : Grammar) : Parser Unit := do
  lifetime
  sign ":"
  if ← sees (Look.word "while") then conditionalLoop g
  else if ← sees (Look.word "for") then iteration g
  else if ← sees (Look.word "loop") then endlessLoop g
  else if ← sees (Look.group .brace) then labelledBlock g
  else missing .labelledBlock

/-- A block with a keyword in front of it. Where attributes can stand at its start, `attributed` holds. -/
def keywordBlock (g : Grammar) (keyword : String) (attributed : Bool) : Parser Unit := do
  word keyword
  if attributed then blockWithAttributes g else block g

def arm (g : Grammar) : Parser Unit := do
  let _ ← outerAttributes g
  let _ ← g.pattern
  if ← optionalWord "if" then
    let _ ← g.expression true
  sign "=>"
  let form ← g.boundedExpression
  let needsComma := form != .block
  if needsComma && !(← sees Look.atEnd) then sign ","
  else
    let _ ← optionalSign ","

def choice (g : Grammar) : Parser Unit := do
  word "match"
  headExpression g
  group .brace do
    let _ ← innerAttributes g
    let _ ← itemsUntil Look.atEnd (arm g)

end Companion.Syntax
