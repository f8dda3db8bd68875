import Companion.Proofs.Source.Occurrences
import Companion.Source.Text
import Mathlib.Data.List.Forall2

set_option autoImplicit false

namespace Companion

@[simp] theorem Source.entryAt_annotations (id : Nat) (found : Finding) :
    (entryAt id found).annotations = found.annotations := rfl

@[simp] theorem Source.entryAt_declaration (id : Nat) (found : Finding) :
    (entryAt id found).declaration = ⟨id, found.name, found.space, found.kind, found.location⟩ := rfl

namespace Index

open Companion.Syntax (Item)

variable {file : Option FilePath} {space : Namespace} {items : List Item}

theorem mem_annotationNames {attributes : List Syntax.Attribute} {tag : String} :
    tag ∈ annotationNames attributes ↔
      ∃ mark ∈ attributes, ¬(mark.absolute = false ∧ mark.names = ["doc"]) ∧ mark.names.getLast? = some tag := by
  have counts : ∀ mark : Syntax.Attribute,
      (!mark.isDocumentation) = true ↔ ¬(mark.absolute = false ∧ mark.names = ["doc"]) := fun mark => by
    cases absolute : mark.absolute <;> simp [Syntax.Attribute.isDocumentation, absolute]
  simp only [annotationNames, List.mem_filterMap, List.mem_filter, counts, and_assoc]

theorem Subject.carries_iff {subject : Subject} {tag : String} :
    subject.Carries tag ↔ tag ∈ annotationNames subject.attributes :=
  mem_annotationNames.symm

instance (subject : Subject) (tag : String) : Decidable (subject.Carries tag) :=
  decidable_of_iff _ Subject.carries_iff.symm

/-- A subject that is never declared has no attributes. -/
theorem Subject.attributes_of_kind?_none {subject : Subject} (undeclared : subject.kind? = none) :
    subject.attributes = [] := by
  cases subject with
  | item item =>
      cases item with
      | other => rfl
      | named head kind name => cases kind <;> simp [kind?] at undeclared
      | record | implementation | module => simp [kind?] at undeclared
  | member => simp [kind?] at undeclared

/-- At a place the index finds nothing, and the place has no attributes that count, or it finds one thing: what stands
there. -/
theorem Occurrence.findings_cases (file : Option FilePath) (space : Namespace) (occurrence : Occurrence) :
    (occurrence.findings file space = [] ∧ annotationNames occurrence.subject.attributes = []) ∨
      ∃ kind found, occurrence.findings file space = [found] ∧ occurrence.subject.kind? = some kind ∧
        found = ⟨annotationNames occurrence.subject.attributes, occurrence.subject.name,
          occurrence.spaceIn space, kind, locationIn file occurrence.subject.place, occurrence.subject.fields⟩ := by
  cases declared : occurrence.subject.kind? with
  | none =>
      left
      simp [findings, declared, Subject.attributes_of_kind?_none declared, annotationNames]
  | some kind =>
      by_cases unmarked : annotationNames occurrence.subject.attributes = []
      · left
        simp [findings, declared, finding, unmarked]
      · right
        refine ⟨kind, _, ?_, rfl, rfl⟩
        simp [findings, declared, finding, unmarked]

theorem location_of_mem_itemsFindings {file : Option FilePath} {space : Namespace} {items : List Syntax.Item}
    {found : Finding} (member : found ∈ (itemsFindings file space items).declarations) : ∃ place, found.location = locationIn file place := by
  rw [itemsFindings_eq file space items 0] at member
  obtain ⟨occurrence, -, inOccurrence⟩ := List.mem_flatMap.mp member
  obtain ⟨nothing, -⟩ | ⟨kind, one, alone, -, rfl⟩ := occurrence.findings_cases file space
  · simp [nothing] at inOccurrence
  · rw [alone, List.mem_singleton] at inOccurrence
    exact ⟨_, congrArg Finding.location inOccurrence⟩

/-- An entry of what stands at an address among the items of a file: it declares that, and keeps its fields. -/
structure Records (items : List Item) (space : Namespace) (file : Option FilePath) (address : Address)
    (entry : Entry) : Prop where
  subject : ∃ modules subject, Stands items address modules subject ∧ subject.kind? = some entry.declaration.kind ∧
    entry.declaration.name = subject.name ∧
    entry.declaration.space.segments = space.segments ++ modules.map plainName ++ subject.owners ∧
    entry.declaration.location = locationIn file subject.place ∧ entry.fields = subject.fields

theorem Records.declares {address : Address} {entry : Entry} (records : Records items space file address entry) :
    Declares items space file address entry.declaration := by
  obtain ⟨modules, subject, stands, kind, name, segments, location, -⟩ := records.subject
  exact ⟨modules, subject, stands, kind, name, segments, location⟩

/-- The tagged entries of places, numbered from a number on, are those of the places that carry the tag, in turn. -/
theorem forall₂_records (worded : Item.AllWorded items) (tag : String) {occurrences : List Occurrence}
    (stand : ∀ one ∈ occurrences, Stands items one.address one.modules one.subject) (start : Nat) :
    List.Forall₂ (Records items space file)
      ((occurrences.filter fun one => one.subject.Carries tag).map (·.address))
      (((occurrences.flatMap (·.findings file space)).mapIdx fun index found =>
        Source.entryAt (start + index) found).filter fun entry => entry.annotations.contains tag) := by
  induction occurrences generalizing start with
  | nil => exact .nil
  | cons first others ih =>
      obtain ⟨firstStands, othersStand⟩ := List.forall_mem_cons.mp stand
      rw [List.flatMap_cons]
      obtain ⟨nothing, unmarked⟩ | ⟨kind, found, isFound, isKind, rfl⟩ := first.findings_cases file space
      · have absent : ¬first.subject.Carries tag := by simp [Subject.carries_iff, unmarked]
        simpa [nothing, absent] using ih othersStand start
      · have rest := ih othersStand (start + 1)
        have next : ∀ index, start + 1 + index = start + (index + 1) := fun index => by omega
        simp only [next] at rest
        rw [isFound, List.singleton_append, List.mapIdx_cons]
        by_cases carries : first.subject.Carries tag
        · have tagged : tag ∈ annotationNames first.subject.attributes := Subject.carries_iff.mp carries
          have records : Records items space file first.address
              (Source.entryAt start ⟨annotationNames first.subject.attributes, first.subject.name,
                first.spaceIn space, kind, locationIn file first.subject.place, first.subject.fields⟩) :=
            ⟨first.modules, first.subject, firstStands, isKind, rfl, Occurrence.segments_spaceIn firstStands worded space, rfl, rfl⟩
          simpa [carries, tagged] using And.intro records rest
        · have untagged : tag ∉ annotationNames first.subject.attributes := mt Subject.carries_iff.mpr carries
          simpa [carries, untagged] using rest

/-- The declarations of places, numbered from a number on, are those of the places that carry the tag, in turn. -/
theorem forall₂_declares (worded : Item.AllWorded items) (tag : String) {occurrences : List Occurrence}
    (stand : ∀ one ∈ occurrences, Stands items one.address one.modules one.subject) (start : Nat) :
    List.Forall₂ (Declares items space file)
      ((occurrences.filter fun one => one.subject.Carries tag).map (·.address))
      ((((occurrences.flatMap (·.findings file space)).mapIdx fun index found =>
        Source.entryAt (start + index) found).filter fun entry => entry.annotations.contains tag).map
          (·.declaration)) := by
  rw [List.forall₂_map_right_iff]
  exact (forall₂_records worded tag stand start).imp fun _ _ => Records.declares

end Index

namespace Source

open Companion.Index (Address Declares Stands)

theorem files_addAll (source : Source) (found : List Finding) : (source.addAll found).files = source.files := by
  induction found generalizing source with
  | nil => rfl
  | cons first others ih => exact ih (source.add first)

theorem diagnostics_addAll (source : Source) (found : List Finding) :
    (source.addAll found).diagnostics = source.diagnostics := by
  induction found generalizing source with
  | nil => rfl
  | cons first others ih => exact ih (source.add first)

theorem declarationsWith_addAll (source : Source) (found : List Finding) (tag : String) :
    (source.addAll found).declarationsWith tag = source.declarationsWith tag ++
      (((found.mapIdx fun index one => entryAt (source.entries.length + index) one).filter fun entry =>
        entry.annotations.contains tag).map (·.declaration)) := by
  rw [declarationsWith, entries_addAll, List.filter_append, List.map_append, declarationsWith]

/-- Adding a text adds, for a tag, exactly one declaration of each item at any depth of modules, and of each member of
a struct, that carries the tag, and no other. They come in the order of the text, with the members of a struct in front
of the struct and the content of a module in front of the module. All that was there before stays. -/
theorem addText_declares {text : String} {items : List Syntax.Item} {space : Namespace}
    (read : Syntax.readFile text = .ok items) (source : Source) (file : Option FilePath) (tag : String) :
    ∃ after events addresses declared,
      source.addText text space file = .ok (after, events) ∧
        after.declarationsWith tag = source.declarationsWith tag ++ declared ∧
        List.Forall₂ (Declares items space file) addresses declared ∧
        (∀ address, address ∈ addresses ↔
          ∃ modules subject, Stands items address modules subject ∧ subject.Carries tag) ∧
        addresses.Pairwise Address.Before ∧ addresses.Nodup ∧
        (∃ added, after.entries = source.entries ++ added) ∧
        after.files = source.files ∧ after.diagnostics = source.diagnostics := by
  have worded := Syntax.allWorded_readFile read
  have visit : (Index.itemsFindings file space items).declarations = _ := Index.itemsFindings_eq file space items 0
  have stand : ∀ one ∈ Index.occurrencesFrom 0 items, Stands items one.address one.modules one.subject :=
    fun one visited => Index.mem_occurrencesFrom_iff.mp visited
  have added : source.addText text space file = .ok (source.addAll (Index.itemsFindings file space items).declarations,
      (Index.itemsFindings file space items).events ++
        [textEvent space file (Index.itemsFindings file space items).declarations.length]) := by
    rw [addText, read]
  have ordered : (((Index.occurrencesFrom 0 items).filter fun one => one.subject.Carries tag).map
      (·.address)).Pairwise Address.Before :=
    List.pairwise_map.mpr ((Index.ordered_occurrencesFrom 0 items).filter _)
  refine ⟨_, _, _, _, added, declarationsWith_addAll source _ tag, ?_, ?_, ordered, ordered.imp Address.Before.ne,
    ⟨_, entries_addAll source _⟩, files_addAll source _, diagnostics_addAll source _⟩
  · rw [visit]
    exact Index.forall₂_declares worded tag stand source.entries.length
  · intro address
    simp only [List.mem_map, List.mem_filter, decide_eq_true_eq]
    constructor
    · rintro ⟨one, ⟨visited, carries⟩, rfl⟩
      exact ⟨one.modules, one.subject, stand one visited, carries⟩
    · rintro ⟨modules, subject, stands, carries⟩
      exact ⟨⟨address, modules, subject⟩, ⟨Index.mem_occurrencesFrom_iff.mpr stands, carries⟩, rfl⟩

/-- A struct with a marked field, inside of a module. -/
def nested : String :=
  "mod r#in { #[m] #[other::m] struct S { #[m] x: u8, y: u8 } struct T; }"

/-- The field stands in front of its struct, and the struct counts once. -/
theorem addText_declares_nested :
    ∃ items after events addresses, Syntax.readFile nested = .ok items ∧
      empty.addText nested ⟨["app"], by decide⟩ none = .ok (after, events) ∧
      List.Forall₂ (Declares items ⟨["app"], by decide⟩ none) addresses (after.declarationsWith "m") ∧
      (after.declarationsWith "m").map (fun found => (found.name, found.space.segments)) =
        [("x", ["app", "in", "S"]), ("S", ["app", "in"])] := by
  have adds : (empty.addText nested ⟨["app"], by decide⟩ none).toOption.map (fun added =>
      (added.1.declarationsWith "m").map fun found => (found.name, found.space.segments)) =
        some [("x", ["app", "in", "S"]), ("S", ["app", "in"])] := by
    decide +kernel
  -- From here on, what the text is does not matter, so no step below reads it again.
  generalize nested = text at adds ⊢
  obtain ⟨⟨after, events⟩, added, names⟩ := Option.map_eq_some_iff.mp adds
  replace added := Syntax.ok_of_toOption added
  cases read : Syntax.readFile text with
  | error reason => simp [addText, read] at added
  | ok items =>
      obtain ⟨_, _, addresses, declared, again, appended, declares, -⟩ :=
        addText_declares read empty none "m"
      cases added.symm.trans again
      have all : after.declarationsWith "m" = declared := by simpa [declarationsWith, empty] using appended
      exact ⟨items, after, events, addresses, rfl, added, all ▸ declares, names⟩

end Source

end Companion
