import Companion.Synthesis

set_option autoImplicit false

namespace Companion.Render

def header (type : CompanionType) : String :=
  "// @generated by extractfield from `" ++ type.origin ++ "`. Do not edit.\n"

/-- Whether a character ends a line of documentation. A carriage return alone does so too, since a line comment
cannot hold one. -/
def endsDocLine (c : Char) : Bool :=
  c == '\r' || c == '\n'

/-- The lines of one piece of documentation that are not blank, without the white space at their ends. -/
def docLines (doc : String) : List String :=
  ((Text.split endsDocLine doc).map Text.trimEnd).filter (· ≠ "")

def propertyDocs (property : Property) : List String :=
  property.docs.flatMap docLines

end Companion.Render
