import Companion.Syntax.Stream

set_option autoImplicit false

namespace Companion.Syntax

/-- How strongly an operator binds, weakest first. -/
inductive Precedence where
  | weakest | assignment | range | disjunction | conjunction | binding | comparison | bitOr | bitXor | bitAnd
  | shift | sum | product | cast
  deriving DecidableEq, Repr

namespace Precedence

def rank : Precedence → Nat
  | weakest => 0
  | assignment => 1
  | range => 2
  | disjunction => 3
  | conjunction => 4
  | binding => 5
  | comparison => 6
  | bitOr => 7
  | bitXor => 8
  | bitAnd => 9
  | shift => 10
  | sum => 11
  | product => 12
  | cast => 13

def binds (weaker stronger : Precedence) : Bool :=
  weaker.rank < stronger.rank

end Precedence

structure Operator where
  signs : String
  precedence : Precedence
  deriving DecidableEq, Repr

namespace Operator

/-- The operators. One that begins like another but is longer stands in front of it. -/
def all : List Operator :=
  [⟨"+=", .assignment⟩, ⟨"-=", .assignment⟩, ⟨"*=", .assignment⟩, ⟨"/=", .assignment⟩, ⟨"%=", .assignment⟩,
    ⟨"^=", .assignment⟩, ⟨"&=", .assignment⟩, ⟨"|=", .assignment⟩, ⟨"<<=", .assignment⟩, ⟨">>=", .assignment⟩,
    ⟨"&&", .conjunction⟩, ⟨"||", .disjunction⟩, ⟨"<<", .shift⟩, ⟨">>", .shift⟩, ⟨"==", .comparison⟩,
    ⟨"<=", .comparison⟩, ⟨"!=", .comparison⟩, ⟨">=", .comparison⟩, ⟨"+", .sum⟩, ⟨"-", .sum⟩, ⟨"*", .product⟩,
    ⟨"/", .product⟩, ⟨"%", .product⟩, ⟨"^", .bitXor⟩, ⟨"&", .bitAnd⟩, ⟨"|", .bitOr⟩, ⟨"<", .comparison⟩,
    ⟨">", .comparison⟩]

def next? (trees : List Tree) : Option Operator :=
  all.find? fun operator => Look.sign operator.signs trees

end Operator

def startsAssignment : Look := fun trees => Look.sign "=" trees && !Look.sign "=>" trees

def nextPrecedence (trees : List Tree) : Precedence :=
  match Operator.next? trees with
  | some operator => operator.precedence
  | none =>
      if startsAssignment trees then .assignment
      else if Look.sign ".." trees then .range
      else if Look.word "as" trees then .cast
      else .weakest

end Companion.Syntax
