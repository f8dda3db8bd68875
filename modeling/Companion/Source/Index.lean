import Companion.Source
import Companion.Syntax.Grammar
import Companion.TypeRef.OfSyntax

/-!
The declarations of a file. Every item with an attribute other than documentation is one, and so is every member of a
struct. The members of a struct stand in front of it, and the content of a module in front of the module.
-/

set_option autoImplicit false

namespace Companion.Index

def plainName (name : String) : String :=
  match name.toList with
  | 'r' :: '#' :: rest => String.ofList rest
  | _ => name

/-- The names by which attributes are known: the last one of each path. Documentation does not count. -/
def annotationNames (attributes : List Syntax.Attribute) : List String :=
  (attributes.filter fun mark => !mark.isDocumentation).filterMap fun mark => mark.names.getLast?

/-- The lines of a piece of documentation that say something, trimmed. -/
def docLines (text : String) : List String :=
  ((Text.lines text).map Text.trim).filter (· ≠ "")

def documentation (attributes : List Syntax.Attribute) : List String :=
  ((attributes.filter Syntax.Attribute.isDocumentation).filterMap (·.text)).flatMap docLines

def memberName (member : Syntax.Member) (position : Nat) : String :=
  match member.name with
  | some name => plainName name
  | none => "_" ++ toString position

def fieldOf (member : Syntax.Member) (position : Nat) : Field :=
  ⟨memberName member position, .ofSyntax member.type, documentation member.attributes⟩

def fieldsOf (members : List Syntax.Member) : List Field :=
  members.zipIdx.map fun (member, position) => fieldOf member position

def locationIn (file : Option FilePath) (place : Syntax.Position) : Option Location :=
  file.map fun file => ⟨file, place.line, place.column⟩

def kindOf : Syntax.ItemKind → DeclarationKind
  | .enumeration => .enumeration
  | .union => .union
  | .trait => .interface
  | .function => .function
  | .typeAlias => .typeAlias
  | .constant | .static => .constant

/-- What is found in a file: declarations, and events on the way. -/
structure Findings where
  declarations : List Finding
  events : List Log.Event

namespace Findings

def none : Findings := ⟨[], []⟩

def append (first second : Findings) : Findings :=
  ⟨first.declarations ++ second.declarations, first.events ++ second.events⟩

end Findings

def finding (file : Option FilePath) (space : Namespace) (head : Syntax.ItemHead) (name : String)
    (kind : DeclarationKind) (fields : List Field) : List Finding :=
  let annotations := annotationNames head.attributes
  if annotations.isEmpty then []
  else [⟨annotations, name, space, kind, locationIn file head.place, fields⟩]

/-- The declaration of a member of a struct, if it has an attribute that counts. -/
def memberFinding (file : Option FilePath) (owner : Namespace) (member : Syntax.Member) (position : Nat) :
    List Finding :=
  finding file owner ⟨member.attributes, member.place⟩ (memberName member position) .field []

/-- What is found in a struct: its members, and then the struct. A struct that counts and has parameters loses them,
which is an event. -/
def recordFindings (file : Option FilePath) (space : Namespace) (head : Syntax.ItemHead) (name : String)
    (isGeneric : Bool) (members : List Syntax.Member) : Findings :=
  let owner := space.child (plainName name)
  let ofMembers := members.zipIdx.flatMap fun (member, position) => memberFinding file owner member position
  let ofRecord := finding file space head (plainName name) .classLike (fieldsOf members)
  ⟨ofMembers ++ ofRecord, if isGeneric && !ofRecord.isEmpty then [.genericsDropped name] else []⟩

mutual

def itemFindings (file : Option FilePath) (space : Namespace) : Syntax.Item → Findings
  | .record head name isGeneric members => recordFindings file space head name isGeneric members
  | .named head kind name => ⟨finding file space head (plainName name) (kindOf kind) [], []⟩
  | .implementation head target => ⟨finding file space head target .implementation [], []⟩
  | .module head name content =>
      (itemsFindings file (space.child (plainName name)) content).append
        ⟨finding file space head (plainName name) .module [], []⟩
  | .other => .none

def itemsFindings (file : Option FilePath) (space : Namespace) : List Syntax.Item → Findings
  | [] => .none
  | item :: items => (itemFindings file space item).append (itemsFindings file space items)

end

end Companion.Index
