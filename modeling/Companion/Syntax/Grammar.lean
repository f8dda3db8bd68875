import Companion.Syntax.Stream

/-!
What the parsers of the grammar tell about what they read. Everything that is read is also written in canonical
spelling; the values here hold only what somebody asks for afterwards.

The rules of the grammar refer to each other in circles. `Grammar` holds the rules that close the circles, and every
parser that needs one of them takes them as an argument.
-/

set_option autoImplicit false

namespace Companion.Syntax

inductive TypeSyntax where
  /-- A path of names that has arguments at most behind its last name, all of them types. -/
  | path (absolute : Bool) (leading : List String) (last : String) (arguments : List TypeSyntax)
  /-- A type between parentheses. -/
  | parenthesized (inner : TypeSyntax)
  /-- Any other type, in canonical spelling. -/
  | other (spelling : String)
  deriving Repr

namespace TypeSyntax

mutual

def decideEq : (type second : TypeSyntax) → Decidable (type = second)
  | path absolute leading last arguments, path absolute' leading' last' arguments' =>
      match decideEqAll arguments arguments' with
      | isTrue same => decidable_of_iff (absolute = absolute' ∧ leading = leading' ∧ last = last') (by simp [same])
      | isFalse different => isFalse fun same => different (path.inj same).2.2.2
  | parenthesized inner, parenthesized second =>
      match decideEq inner second with
      | isTrue same => isTrue (congrArg parenthesized same)
      | isFalse different => isFalse fun same => different (parenthesized.inj same)
  | other spelling, other spelling' => decidable_of_iff (spelling = spelling') (by simp)
  | path .., parenthesized _ | path .., other _ | parenthesized _, path .. | parenthesized _, other _ | other _, path ..
  | other _, parenthesized _ => isFalse (by simp)

def decideEqAll : (types others : List TypeSyntax) → Decidable (types = others)
  | [], [] => isTrue rfl
  | first :: types, second :: others =>
      match decideEq first second, decideEqAll types others with
      | isTrue same, isTrue rest => isTrue (by rw [same, rest])
      | isFalse different, _ => isFalse fun same => different (List.cons.inj same).1
      | _, isFalse different => isFalse fun same => different (List.cons.inj same).2
  | [], _ :: _ | _ :: _, [] => isFalse (by simp)

end

instance : DecidableEq TypeSyntax := decideEq

end TypeSyntax

/-- What the rules that a type is part of want to know about it. -/
inductive TypeShape where
  /-- A path that does not begin with a type between angles. -/
  | path (absolute : Bool) (length : Nat)
  /-- One trait with its binder, written without `dyn`. -/
  | bareTrait
  | other
  deriving DecidableEq, Repr

structure TypeForm where
  type : TypeSyntax
  shape : TypeShape

/-- A type without structure; its spelling is made of the words written for it. -/
def TypeForm.spelled (words : List String) (shape : TypeShape) : TypeForm :=
  ⟨.other (String.intercalate " " words), shape⟩

/-- What the rules that a pattern is part of want to know about it. -/
inductive PatternForm where
  /-- A range that lacks one of its ends, and the place of its dots. -/
  | openRange (dots : Position)
  | other
  deriving DecidableEq, Repr

/-- What the rules that an expression is part of want to know about it. -/
inductive ExpressionForm where
  /-- A range, and the place of its dots. -/
  | range (dots : Position)
  /-- A comparison of two values. -/
  | comparison
  /-- An expression that ends with a block of its own and is a statement without a semicolon. -/
  | block
  /-- A call of a named rule with braces. -/
  | bracedCall
  | other
  deriving DecidableEq, Repr

def ExpressionForm.isRange : ExpressionForm → Bool
  | range _ => true
  | _ => false

/-- An attribute: the names of its path, and the text of the string that it assigns. -/
structure Attribute where
  absolute : Bool
  names : List String
  text : Option String
  deriving DecidableEq, Repr

def Attribute.isDocumentation (mark : Attribute) : Bool :=
  !mark.absolute && mark.names == ["doc"]

/-- A data member of a struct. Members between parentheses have no name. -/
structure Member where
  attributes : List Attribute
  name : Option String
  type : TypeSyntax
  place : Position
  deriving Repr

/-- The sorts of items of which only the name matters. -/
inductive ItemKind where
  | enumeration | union | trait | function | typeAlias | constant | static
  deriving DecidableEq, Repr

/-- What items have in common: their attributes and the place where they begin. -/
structure ItemHead where
  attributes : List Attribute
  place : Position
  deriving Repr

inductive Item where
  | record (head : ItemHead) (name : String) (isGeneric : Bool) (members : List Member)
  | named (head : ItemHead) (kind : ItemKind) (name : String)
  | implementation (head : ItemHead) (target : String)
  | module (head : ItemHead) (name : String) (content : List Item)
  /-- Items that have no name of their own. -/
  | other
  deriving Repr

structure BoundRules where
  /-- Whether the captured parameters may be listed. -/
  captures : Bool
  /-- Whether constness may be asked for. -/
  constness : Bool

/-- The rules that refer to each other in circles. -/
structure Grammar where
  /-- A type; the argument tells whether a list of bounds may follow a first one. -/
  type : Bool → Parser TypeForm
  /-- A bound; tells whether it is a trait. -/
  bound : BoundRules → Parser Bool
  /-- A pattern without vertical bars around it. -/
  singlePattern : Parser PatternForm
  /-- Patterns between vertical bars. -/
  pattern : Parser PatternForm
  /-- A value with the operators in front of it and what stands behind it; the argument tells whether a brace may begin
  the fields of a struct. -/
  operand : Bool → Parser ExpressionForm
  /-- An expression; the argument tells whether a brace may begin the fields of a struct. -/
  expression : Bool → Parser ExpressionForm
  /-- An expression that ends behind the block that it begins with, unless a point or a question mark follows. -/
  boundedExpression : Parser ExpressionForm
  /-- The statements of a block. -/
  statements : Parser Unit
  /-- An item. -/
  item : Parser Item

end Companion.Syntax
