import Companion.Toml.Token

/-!
The lines of a TOML text as they are written, before keys and values are decoded.
-/

set_option autoImplicit false

namespace Companion.Toml

/-- One part of a key as it is written. A part without style stands without quotes. -/
structure KeyText where
  style : Option StringStyle
  span : Span
  text : List Char
  deriving DecidableEq, Repr

namespace KeyText

def missing (place : Nat) : KeyText := ⟨none, .point place, []⟩

def ofToken? (token : Token) : Option KeyText :=
  match token.kind with
  | .atom => some ⟨none, token.span, token.text⟩
  | .string style => some ⟨some style, token.span, token.text⟩
  | _ => none

end KeyText

abbrev DottedKey := List KeyText

/-- A value as it is written. A scalar without style stands without quotes. -/
inductive ValueText where
  | scalar (style : Option StringStyle) (span : Span) (text : List Char)
  | array (span : Span) (items : List ValueText)
  | table (span : Span) (entries : List (DottedKey × ValueText))
  deriving Repr

inductive Expression where
  /-- The head of a table, or of one table of an array. -/
  | head (ofArray : Bool) (span : Span) (key : DottedKey)
  /-- A key with its value. -/
  | entry (key : DottedKey) (value : ValueText)
  deriving Repr

end Companion.Toml
