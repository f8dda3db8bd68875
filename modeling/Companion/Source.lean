import Companion.Declaration
import Companion.Log.Event
import Companion.Synthesis

/-!
A source of declarations: what has been collected so far, from memory or from files, with the diagnostics reported
against it. A declaration's number is the place of its entry, so fields are looked up by position and never by name.
-/

set_option autoImplicit false

namespace Companion

/-- A declaration with its annotations and fields. -/
structure Entry where
  declaration : Declaration
  annotations : List String
  fields : List Field
  deriving Repr

/-- Declarations collected from somewhere, the files they came from, and the diagnostics reported so far. -/
structure Source where
  entries : List Entry
  files : List FilePath
  diagnostics : List Diagnostic
  deriving Repr

/-- A declaration that has not been given a number yet. -/
structure Finding where
  annotations : List String
  name : String
  space : Namespace
  kind : DeclarationKind
  location : Option Location
  fields : List Field
  deriving Repr

namespace Source

def empty : Source := ⟨[], [], []⟩

def entryAt (id : Nat) (found : Finding) : Entry :=
  ⟨⟨id, found.name, found.space, found.kind, found.location⟩, found.annotations, found.fields⟩

/-- Adds a finding at the end. Its number is the number of entries before it. -/
def add (source : Source) (found : Finding) : Source :=
  { source with entries := source.entries ++ [entryAt source.entries.length found] }

def addAll (source : Source) (found : List Finding) : Source :=
  found.foldl add source

/-- Registers a declaration that is known without a file, and gives its number. -/
def declare (source : Source) (marker : String) (space : Namespace) (name : String)
    (kind : DeclarationKind) (fields : List Field) : Source × Nat :=
  (source.add ⟨[marker], name, space, kind, none, fields⟩, source.entries.length)

/-- The declarations that carry an annotation, in the order in which they were found. -/
def declarationsWith (source : Source) (marker : String) : List Declaration :=
  (source.entries.filter fun entry => entry.annotations.contains marker).map (·.declaration)

/-- The fields of a declaration; none for a number that no entry has. -/
def fieldsOf (source : Source) (declaration : Declaration) : List Field :=
  match source.entries[declaration.id]? with
  | some entry => entry.fields
  | none => []

def report (source : Source) (declaration : Declaration) (message : String) : Source :=
  { source with diagnostics := source.diagnostics ++ [.against declaration message] }

/-- Hands over the diagnostics and keeps none of them. -/
def takeDiagnostics (source : Source) : Source × List Diagnostic :=
  ({ source with diagnostics := [] }, source.diagnostics)

def metadata (source : Source) (declaration : Declaration) : Metadata :=
  ⟨declaration.name, declaration.space, source.fieldsOf declaration⟩

def readEvent (source : Source) (declaration : Declaration) : Log.Event :=
  .metadataRead declaration.qualifiedName (source.fieldsOf declaration).length

end Source

end Companion
