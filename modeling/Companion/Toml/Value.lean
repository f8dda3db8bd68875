import Companion.Toml.Scalar

set_option autoImplicit false

namespace Companion.Toml

/-- How a table came to be, which decides what may still be added to it. -/
inductive TableOrigin where
  /-- By a head of its own; the outermost table counts as one of these. -/
  | head
  /-- On the way to the table of another head. -/
  | onTheWay
  /-- By dots in the key of an entry. -/
  | dots
  /-- As an inline table. -/
  | inline
  deriving DecidableEq, Repr

/-- A key with the stretch where it was first written. -/
structure Key where
  name : String
  span : Span
  deriving DecidableEq, Repr

/-- A value. An array of tables is one that was written with heads. -/
inductive Value where
  | scalar (span : Span) (content : Scalar)
  | array (span : Span) (ofTables : Bool) (items : List Value)
  | table (span : Span) (origin : TableOrigin) (entries : List (Key × Value))
  deriving Repr

namespace Value

def span : Value → Span
  | scalar span _ | array span _ _ | table span _ _ => span

def typeName : Value → String
  | scalar _ (.string _) => "string"
  | scalar _ (.boolean _) => "boolean"
  | scalar _ (.integer _) => "integer"
  | scalar _ (.float _) => "float"
  | scalar _ .dateTime => "datetime"
  | array .. => "array"
  | table _ .inline _ => "inline table"
  | table .. => "table"

end Value

abbrev Entries := List (Key × Value)

namespace Entries

def find? (name : String) : Entries → Option (Key × Value)
  | [] => none
  | entry :: others => if entry.1.name = name then some entry else find? name others

def erase (name : String) (entries : Entries) : Entries :=
  entries.filter fun entry => entry.1.name ≠ name

def insert (key : Key) (value : Value) : Entries → Entries
  | [] => [(key, value)]
  | entry :: others =>
      if key.name < entry.1.name then (key, value) :: entry :: others
      else entry :: insert key value others

def set (name : String) (value : Value) (entries : Entries) : Entries :=
  entries.map fun entry => if entry.1.name = name then (entry.1, value) else entry

end Entries

end Companion.Toml
