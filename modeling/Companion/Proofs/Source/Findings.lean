import Companion.Proofs.Namespace.Dotted
import Companion.Proofs.Syntax.Items
import Companion.Source.Text

set_option autoImplicit false

namespace Companion

/-- A module of a name adds that name to its namespace. -/
theorem Namespace.segments_child (space : Namespace) {segment : String} (nonempty : segment ≠ "") :
    (space.child segment).segments = space.segments ++ [segment] :=
  segments_ofSegments (by simpa [space.noneEmpty] using nonempty.symm)

/-- What is inside of a module is below the namespace of the module. -/
theorem Namespace.ofSegments_child (space : Namespace) (segment : String) (others : List String) :
    ofSegments ((space.child segment).segments ++ others) =
      ofSegments (space.segments ++ segment :: others) := by
  ext1
  by_cases empty : segment = "" <;> simp [child, ofSegments, empty]

namespace Index

open Companion.Syntax (IsIdentifier IsWord Item)

variable {file : Option FilePath} {space : Namespace} {found : Finding}

/-- A finding that stands in a file, in modules below the namespace of that file. -/
structure StandsIn (file : Option FilePath) (space : Namespace) (found : Finding) : Prop where
  location : ∃ place, found.location = locationIn file place
  name : IsIdentifier found.name
  modules : ∃ modules, (∀ name ∈ modules, IsIdentifier name) ∧ found.space.segments = space.segments ++ modules

theorem eq_of_mem_finding {head : Syntax.ItemHead} {name : String} {kind : DeclarationKind} {fields : List Field}
    (member : found ∈ finding file space head name kind fields) :
    found.name = name ∧ found.space = space ∧ found.kind = kind ∧ found.location = locationIn file head.place := by
  simp only [finding] at member
  split at member
  · contradiction
  · rw [List.mem_singleton.mp member]
    exact ⟨rfl, rfl, rfl, rfl⟩

theorem standsIn_of_mem_recordFindings {head : Syntax.ItemHead} {name : String} {isGeneric : Bool}
    {members : List Syntax.Member} (isWord : IsWord name) (isClass : found.kind = .classLike)
    (member : found ∈ (recordFindings file space head name isGeneric members).declarations) :
    StandsIn file space found := by
  unfold recordFindings at member
  obtain ofMembers | ofRecord := List.mem_append.mp member
  · obtain ⟨⟨other, position⟩, -, isField⟩ := List.mem_flatMap.mp ofMembers
    obtain ⟨-, -, kind, -⟩ := eq_of_mem_finding isField
    rw [isClass] at kind
    contradiction
  · obtain ⟨isName, inSpace, -, location⟩ := eq_of_mem_finding ofRecord
    exact ⟨⟨_, location⟩, isName ▸ isWord.plainName, [], by simp, by simp [inSpace]⟩

theorem StandsIn.of_child {segment : String} (isIdentifier : IsIdentifier segment)
    (stands : StandsIn file (space.child segment) found) : StandsIn file space found := by
  obtain ⟨modules, areIdentifiers, segments⟩ := stands.modules
  refine ⟨stands.location, stands.name, segment :: modules, List.forall_mem_cons.mpr ⟨isIdentifier, areIdentifiers⟩, ?_⟩
  rw [segments, space.segments_child isIdentifier.ne_empty]
  simp

mutual

theorem standsIn_of_mem_itemFindings {space : Namespace} {item : Item} (worded : item.Worded)
    (isClass : found.kind = .classLike) (member : found ∈ (itemFindings file space item).declarations) :
    StandsIn file space found := by
  cases item with
  | record head name isGeneric members =>
      exact standsIn_of_mem_recordFindings worded.1 isClass (by simpa [itemFindings] using member)
  | named head kind name =>
      have isNamed : found ∈ finding file space head (plainName name) (kindOf kind) [] := by
        simpa [itemFindings] using member
      obtain ⟨-, -, sameKind, -⟩ := eq_of_mem_finding isNamed
      cases kind <;> simp [isClass, kindOf] at sameKind
  | implementation head target =>
      have isBlock : found ∈ finding file space head target .implementation [] := by
        simpa [itemFindings] using member
      obtain ⟨-, -, sameKind, -⟩ := eq_of_mem_finding isBlock
      simp [isClass] at sameKind
  | module head name content =>
      have inside : found ∈ (itemsFindings file (space.child (plainName name)) content).declarations ∨
          found ∈ finding file space head (plainName name) .module [] := by
        simpa [itemFindings, Findings.append] using member
      obtain inContent | isModule := inside
      · exact (standsIn_of_mem_itemsFindings worded.2 isClass inContent).of_child worded.1.plainName
      · obtain ⟨-, -, sameKind, -⟩ := eq_of_mem_finding isModule
        simp [isClass] at sameKind
  | other => simp [itemFindings, Findings.none] at member

theorem standsIn_of_mem_itemsFindings {space : Namespace} {items : List Item} (worded : Item.AllWorded items)
    (isClass : found.kind = .classLike) (member : found ∈ (itemsFindings file space items).declarations) : StandsIn file space found := by
  cases items with
  | nil => simp [itemsFindings, Findings.none] at member
  | cons item items =>
      have inside : found ∈ (itemFindings file space item).declarations ∨
          found ∈ (itemsFindings file space items).declarations := by
        simpa [itemsFindings, Findings.append] using member
      obtain inItem | inOthers := inside
      · exact standsIn_of_mem_itemFindings worded.1 isClass inItem
      · exact standsIn_of_mem_itemsFindings worded.2 isClass inOthers

end

def innerFindings (file : Option FilePath) (space : Namespace) : Item → List Finding
  | .record _ name _ members =>
      members.zipIdx.flatMap fun (member, position) => memberFinding file (space.child (plainName name)) member position
  | .module _ name content => (itemsFindings file (space.child (plainName name)) content).declarations
  | .named .. | .implementation .. | .other => []

def ownFindings (file : Option FilePath) (space : Namespace) : Item → List Finding
  | .record head name _ members => finding file space head (plainName name) .classLike (fieldsOf members)
  | .named head kind name => finding file space head (plainName name) (kindOf kind) []
  | .implementation head target => finding file space head target .implementation []
  | .module head name _ => finding file space head (plainName name) .module []
  | .other => []

theorem itemFindings_declarations (file : Option FilePath) (space : Namespace) (item : Item) :
    (itemFindings file space item).declarations = innerFindings file space item ++ ownFindings file space item := by
  cases item <;> rfl

end Index

namespace Source

/-- Findings are numbered in order, behind what is there. -/
theorem entries_addAll (source : Source) (found : List Finding) :
    (source.addAll found).entries =
      source.entries ++ found.mapIdx fun index one => entryAt (source.entries.length + index) one := by
  induction found generalizing source with
  | nil => simp [addAll]
  | cons first others ih =>
      have rest := ih (source.add first)
      unfold addAll at rest ⊢
      rw [List.foldl_cons, rest]
      simp [add, List.mapIdx_cons, Nat.add_assoc, Nat.add_comm 1]

theorem mem_entries_addAll {source : Source} {found : List Finding} {entry : Entry}
    (member : entry ∈ (source.addAll found).entries) :
    entry ∈ source.entries ∨ ∃ id, ∃ one ∈ found, entry = entryAt id one := by
  rw [entries_addAll, List.mem_append] at member
  obtain earlier | added := member
  · exact .inl earlier
  · obtain ⟨index, bound, rfl⟩ := List.mem_mapIdx.mp added
    exact .inr ⟨_, _, List.getElem_mem bound, rfl⟩

variable {source after : Source} {space : Namespace} {events : List Log.Event}

/-- A text that was added can be read, and what is found in it has come to the end. -/
theorem exists_items_of_addText {text : String} {file : Option FilePath}
    (added : source.addText text space file = .ok (after, events)) :
    ∃ items, Syntax.readFile text = .ok items ∧
      after = source.addAll (Index.itemsFindings file space items).declarations := by
  unfold addText at added
  cases read : Syntax.readFile text with
  | error reason => simp [read] at added
  | ok items =>
      simp only [read] at added
      cases added
      exact ⟨items, rfl, rfl⟩

/-- A file that was added can be read, and has come behind what was found in it. -/
theorem exists_items_of_addFile {files : FileSystem} {path : FilePath}
    (added : source.addFile files path space = .ok (after, events)) :
    ∃ text items, files.readText path = .ok text ∧ Syntax.readFile text = .ok items ∧
      after = { source.addAll (Index.itemsFindings (some path) space items).declarations with
        files := (source.addAll (Index.itemsFindings (some path) space items).declarations).files ++ [path] } := by
  unfold addFile at added
  cases readText : files.readText path with
  | error cause => simp [readText] at added
  | ok text =>
      cases addedText : source.addText text space (some path) with
      | error reason => simp [readText, addedText] at added
      | ok both =>
          simp only [readText, addedText] at added
          cases added
          obtain ⟨items, read, whole⟩ := exists_items_of_addText addedText
          exact ⟨text, items, rfl, read, by rw [whole]⟩

end Source

end Companion
