import Companion.Toml.Document

/-!
From values to the types of the program. A decoder takes a value or tells how it misses what was asked for. Records are
decoded over a value that holds the defaults, field by field.
-/

set_option autoImplicit false

namespace Companion.Toml

abbrev Decoder (α : Type) := Value → Except Flaw α

namespace Value

def mismatch (value : Value) (wanted : String) : Mismatch :=
  match value with
  | scalar _ (.string text) => .wrongType (.string text) wanted
  | scalar _ (.boolean flag) => .wrongType (.boolean flag) wanted
  | scalar _ (.integer none) => .integerOverflow
  | scalar _ (.integer (some number)) =>
      if -0x8000000000000000 ≤ number && number < 0x10000000000000000 then .wrongType (.integer number) wanted
      else if number < 0x80000000000000000000000000000000 then .wrongType (.wideInteger number "i128") wanted
      else .wrongType (.wideInteger number "u128") wanted
  | scalar _ (.float none) => .floatOverflow
  | scalar _ (.float (some text)) => .wrongType (.float text) wanted
  | scalar _ .dateTime => .wrongType .map wanted
  | array .. => .wrongType .sequence wanted
  | table .. => .wrongType .map wanted

def refuse {α : Type} (value : Value) (wanted : String) : Except Flaw α :=
  .error (.unsuitable value.span (value.mismatch wanted))

end Value

namespace Decoder

/-- A string, called by some name when something else is found. -/
def text (wanted : String) : Decoder String := fun value =>
  match value with
  | .scalar _ (.string text) => .ok text
  | _ => value.refuse wanted

def choose {α : Type} (known : List (String × α)) (name : String) (span : Span) : Except Flaw α :=
  match known.lookup name with
  | some choice => .ok choice
  | none => .error (.unsuitable span (.unknownVariant name (known.map (·.1))))

def checkEmpty (value : Value) : Except Flaw Unit :=
  let wants (what : String) : Except Flaw Unit := .error (.unsuitable value.span (.filledVariant what))
  match value with
  | .table _ _ [] | .array _ _ [] => .ok ()
  | .table .. => wants "empty table"
  | .array .. => wants "empty array"
  | .scalar .. => wants ("table, found " ++ value.typeName)

/-- One of several choices, each with its name. A choice is written as a string, or as the only key of a table whose
value is empty. -/
def variant {α : Type} (known : List (String × α)) : Decoder α := fun value =>
  match value with
  | .scalar span (.string name) => choose known name span
  | .table _ _ [(key, content)] => do
      let choice ← choose known key.name key.span
      checkEmpty content
      return choice
  | .table span _ [] => .error (.unsuitable span .noVariant)
  | .table span _ _ => .error (.unsuitable span .manyVariants)
  | _ => .error (.unsuitable value.span .notVariant)

/-- A field of a record: its name, and how its value changes the record. -/
structure Field (α : Type) where
  name : String
  set : α → Decoder α

/-- The form of a record: what it is called, its fields in order, and whether other keys are refused. -/
structure Form (α : Type) where
  name : String
  fields : List (Field α)
  isClosed : Bool

def Form.names {α : Type} (form : Form α) : List String := form.fields.map (·.name)

def entries {α : Type} (form : Form α) (start : α) : Entries → Except Flaw α
  | [] => .ok start
  | (key, value) :: others =>
      match form.fields.find? fun field => field.name == key.name with
      | some field => do
          let next ← field.set start value
          entries form next others
      | none =>
          if form.isClosed then .error (.unsuitable key.span (.unknownField key.name form.names))
          else entries form start others

def items {α : Type} : List (Field α) → α → List Value → Except Flaw α
  | field :: fields, start, value :: values => do
      let next ← field.set start value
      items fields next values
  | _, start, _ => .ok start

/-- A record: a table of its fields, or an array of them in order. A date is taken for a table without any of the
fields. -/
def record {α : Type} (form : Form α) (start : α) : Decoder α := fun value =>
  match value with
  | .table _ _ found => entries form start found
  | .array _ _ found => items form.fields start found
  | .scalar _ .dateTime => .ok start
  | .scalar .. => value.refuse ("struct " ++ form.name)

end Decoder

def decodeText {α : Type} (decoder : Decoder α) (text : String) : Except Flaw α := do
  decoder (← Document.read text)

end Companion.Toml
