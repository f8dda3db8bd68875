import Companion.Declaration
import Companion.Naming

set_option autoImplicit false

namespace Companion

/-- A property of a companion type, with the names of the two functions on it. -/
structure Property where
  name : String
  type : TypeRef
  accessor : String
  mutator : String
  docs : List String
  deriving Repr

structure CompanionType where
  name : String
  space : Namespace
  sourceName : String
  properties : List Property
  deriving Repr

inductive Member where
  | property (of : Property)
  | accessor (of : Property)
  | mutator (of : Property)
  deriving Repr

def Member.name : Member → String
  | property p => p.name
  | accessor p => p.accessor
  | mutator p => p.mutator

def Field.toProperty (field : Field) : Property :=
  ⟨field.name, field.type.nullable, Naming.accessor field.name, Naming.mutator field.name, field.docs⟩

/-- What is read from a declaration in order to make its companion. -/
structure Metadata where
  name : String
  space : Namespace
  fields : List Field
  deriving Repr

def synthesize (name : String) (space : Namespace) (fields : List Field) : CompanionType :=
  ⟨Naming.companion name, space, name, fields.map Field.toProperty⟩

def Metadata.synthesize (metadata : Metadata) : CompanionType :=
  Companion.synthesize metadata.name metadata.space metadata.fields

namespace CompanionType

def methodsOf (property : Property) : List Member :=
  [.accessor property, .mutator property]

/-- All members: first the properties, then for each of them its accessor and its mutator. -/
def members (type : CompanionType) : List Member :=
  type.properties.map .property ++ type.properties.flatMap methodsOf

def methodCount (type : CompanionType) : Nat :=
  type.properties.length * 2

def isEmpty (type : CompanionType) : Bool :=
  type.properties.isEmpty

def origin (type : CompanionType) : String :=
  type.space.qualify type.sourceName

end CompanionType

end Companion
