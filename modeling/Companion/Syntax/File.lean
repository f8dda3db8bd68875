import Companion.Syntax.Item
import Companion.Syntax.Lexer
import Companion.Syntax.Statement

/-!
Reading whole texts. The rules that refer to each other in circles are given here, up to a depth: a rule of depth zero
reads nothing, and a rule of any other depth is made of those one less deep. Each circle of rules takes a token before
it comes back to where it began, so a depth in proportion to the number of tokens is never used up.
-/

set_option autoImplicit false

namespace Companion.Syntax

open Companion.Syntax.Parser

def Grammar.empty : Grammar where
  type _ := noneOf []
  bound _ := noneOf []
  singlePattern := noneOf []
  pattern := noneOf []
  operand _ := noneOf []
  expression _ := noneOf []
  boundedExpression := noneOf []
  statements := noneOf []
  item := noneOf []

def Grammar.next (g : Unit → Grammar) : Grammar where
  type several := fun stream => Syntax.type (g ()) several stream
  bound rules := fun stream => Syntax.bound (g ()) rules stream
  singlePattern := fun stream => Syntax.singlePattern (g ()) stream
  pattern := fun stream => Syntax.patterns (g ()) stream
  operand fieldsAllowed := fun stream => Syntax.operand ⟨g (), fieldsAllowed⟩ stream
  expression fieldsAllowed := fun stream => Syntax.expression (g ()) fieldsAllowed stream
  boundedExpression := fun stream => Syntax.boundedExpression (g ()) stream
  statements := fun stream => Syntax.statements (g ()) stream
  item := fun stream => Syntax.item (g ()) stream

def grammar : (depth : Nat) → Grammar
  | 0 => .empty
  | depth + 1 => .next fun () => grammar depth

def enoughDepth (trees : List Tree) : Nat := 16 * (Tree.sizeAll trees + 2)

/-- Reads all trees of a text. A complaint that comes up on the way wins over trees that are left over. -/
def parseAll {α : Type} (parser : Grammar → Parser α) (trees : List Tree) : Except SyntaxError (α × List String) :=
  match parser (grammar (enoughDepth trees)) (.ofTrees trees) with
  | .error reason => .error reason
  | .ok (value, stream) =>
      match stream.leftOver, stream.trees with
      | some (place, delimiter), _ => .error ⟨place, .leftOver (some delimiter)⟩
      | none, tree :: _ => .error ⟨tree.place, .leftOver none⟩
      | none, [] => .ok (value, stream.written.reverse)

def fileItems (g : Grammar) : Parser (List Item) := do
  let _ ← innerAttributes g
  itemsUntil Look.atEnd (item g)

/-- The trees of a text, with the place as a complaint where no token can be read. -/
def treesOf (text : List Char) : Except SyntaxError (List Tree) :=
  match treesFrom .start text with
  | .ok trees => .ok trees
  | .error place => .error ⟨place, .noTokens⟩

def readFile (text : String) : Except SyntaxError (List Item) := do
  let trees ← treesOf (fileBody text.toList)
  let (items, _) ← parseAll fileItems trees
  return items

def readType (text : String) : Except SyntaxError TypeSyntax := do
  let trees ← treesOf text.toList
  let (form, _) ← parseAll (fun g => type g true) trees
  return form.type

/-- Reads an item that stands alone, and gives it with its canonical spelling. -/
def readItem (trees : List Tree) : Except SyntaxError (Item × List String) :=
  parseAll item trees

end Companion.Syntax
