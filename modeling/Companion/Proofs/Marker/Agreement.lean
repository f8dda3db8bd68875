import Companion.Proofs.Marker.Reading
import Companion.Proofs.Round.Accounting
import Companion.Proofs.Source.Findings
import Companion.Source.Text

/-!
The marker and the generator on one item. Both take a struct for a class. An item of another kind is rejected by the
marker, and by a round with one diagnostic, unless it is of the kinds that the index knows no name for: these are passed
over without a word.
-/

set_option autoImplicit false

namespace Companion

open Companion.Syntax (markerAttribute)

def Entry.reported (marker : String) (entry : Entry) : List Diagnostic :=
  if entry.annotations.contains marker && !entry.declaration.kind.isClassLike then
    [⟨entry.declaration.qualifiedName, "only classes can be annotated", entry.declaration.location⟩]
  else []

/-- The diagnostics of a round are those for each entry, in order. -/
theorem Source.misplaced_eq_reported (source : Source) (marker : String) :
    ((source.misplaced marker).map fun found =>
        (⟨found.qualifiedName, "only classes can be annotated", found.location⟩ : Diagnostic)) =
      source.entries.flatMap (Entry.reported marker) := by
  unfold misplaced declarationsWith
  induction source.entries with
  | nil => rfl
  | cons entry others ih =>
      rw [List.flatMap_cons, ← ih, Entry.reported, List.filter_cons]
      cases entry.annotations.contains marker with
      | false => rfl
      | true =>
          simp only [if_true, List.map_cons, List.filter_cons, Bool.true_and]
          cases entry.declaration.kind.isClassLike <;> rfl

namespace Index

variable {file : Option FilePath} {space : Namespace}

theorem mem_annotationNames_of_marker {attributes : List Syntax.Attribute} (member : markerAttribute ∈ attributes) :
    "extract_field" ∈ annotationNames attributes := by
  refine List.mem_filterMap.mpr ⟨markerAttribute, List.mem_filter.mpr ⟨member, by decide⟩, rfl⟩

theorem finding_of_marker {head : Syntax.ItemHead} (marked : markerAttribute ∈ head.attributes) (name : String)
    (kind : DeclarationKind) (fields : List Field) :
    finding file space head name kind fields =
      [⟨annotationNames head.attributes, name, space, kind, locationIn file head.place, fields⟩] := by
  have some : (annotationNames head.attributes).isEmpty = false := by
    simpa using List.ne_nil_of_mem (mem_annotationNames_of_marker marked)
  simp [finding, some]

/-- An item that carries the marker is found itself, as a class if it is a struct, unless it has no name. -/
theorem ownFindings_of_marker {item : Syntax.Item}
    (marked : ∀ head, item.head? = some head → markerAttribute ∈ head.attributes) (named : item ≠ .other) :
    ∃ found, ownFindings file space item = [found] ∧ "extract_field" ∈ found.annotations ∧
      found.kind.isClassLike = Marker.isRecord item := by
  cases item with
  | record head name isGeneric members =>
      have isMarked := marked head rfl
      exact ⟨_, finding_of_marker isMarked _ _ _, mem_annotationNames_of_marker isMarked, rfl⟩
  | named head kind name =>
      have isMarked := marked head rfl
      exact ⟨_, finding_of_marker isMarked _ _ _, mem_annotationNames_of_marker isMarked, by cases kind <;> rfl⟩
  | implementation head target =>
      have isMarked := marked head rfl
      exact ⟨_, finding_of_marker isMarked _ _ _, mem_annotationNames_of_marker isMarked, rfl⟩
  | module head name content =>
      have isMarked := marked head rfl
      exact ⟨_, finding_of_marker isMarked _ _ _, mem_annotationNames_of_marker isMarked, rfl⟩
  | other => contradiction

end Index

theorem Index.ownFindings_cases (file : Option FilePath) (space : Namespace) (item : Syntax.Item) :
    ownFindings file space item = [] ∨ ∃ found, ownFindings file space item = [found] := by
  have cases_of_finding : ∀ head name kind fields, finding file space head name kind fields = [] ∨
      ∃ found, finding file space head name kind fields = [found] := fun head name kind fields => by
    simp only [finding]
    split
    · exact .inl rfl
    · exact .inr ⟨_, rfl⟩
  cases item with
  | record | named | implementation | module => exact cases_of_finding _ _ _ _
  | other => exact .inl rfl

namespace Source

variable {source after : Source} {file : Option FilePath} {space : Namespace}

def ownEntries (source : Source) (file : Option FilePath) (space : Namespace) (first : Syntax.Item) : List Entry :=
  (Index.ownFindings file space first).map
    (entryAt (source.entries.length + (Index.innerFindings file space first).length))

theorem ownEntries_of_own (source : Source) {first : Syntax.Item} {found : Finding}
    (own : Index.ownFindings file space first = [found]) : source.ownEntries file space first =
      [entryAt (source.entries.length + (Index.innerFindings file space first).length) found] := by
  rw [ownEntries, own]
  rfl

theorem mem_marked {marker : String} {entry : Entry} (member : entry ∈ source.entries)
    (annotated : marker ∈ entry.annotations) (isClass : entry.declaration.kind.isClassLike = true) :
    entry.declaration ∈ source.marked marker := by
  refine List.mem_filter.mpr ⟨List.mem_map_of_mem (List.mem_filter.mpr ⟨member, ?_⟩), isClass⟩
  simpa using annotated

/-- An item that carries the marker is found as a class exactly if it is a struct. -/
theorem marked_ownEntries_iff {first : Syntax.Item}
    (marked : ∀ head, first.head? = some head → markerAttribute ∈ head.attributes)
    (stored : ∀ entry ∈ source.ownEntries file space first, entry ∈ after.entries) :
    (∃ entry, source.ownEntries file space first = [entry] ∧ entry.declaration ∈ after.marked "extract_field") ↔
      Marker.isRecord first = true := by
  by_cases named : first = .other
  · subst named
    simp [ownEntries, Index.ownFindings, Marker.isRecord]
  obtain ⟨found, own, annotated, kind⟩ := Index.ownFindings_of_marker marked named
  have isEntry := source.ownEntries_of_own own
  rw [isEntry, ← kind]
  constructor
  · rintro ⟨entry, same, isMarked⟩
    obtain rfl := List.singleton_inj.mp same
    exact (List.mem_filter.mp isMarked).2
  · intro isClass
    exact ⟨_, rfl, mem_marked (stored _ (by simp [isEntry])) annotated isClass⟩

/-- One diagnostic is reported for an item that carries the marker, if it has a name and is no struct. -/
theorem reported_ownEntries_iff {first : Syntax.Item}
    (marked : ∀ head, first.head? = some head → markerAttribute ∈ head.attributes) :
    ((source.ownEntries file space first).flatMap (Entry.reported "extract_field")).length = 1 ↔
      Marker.isRecord first = false ∧ first ≠ .other := by
  by_cases named : first = .other
  · subst named
    simp [ownEntries, Index.ownFindings]
  obtain ⟨found, own, annotated, kind⟩ := Index.ownFindings_of_marker marked named
  rw [source.ownEntries_of_own own, ← kind]
  cases isClass : found.kind.isClassLike <;> simp [Entry.reported, entryAt, annotated, isClass, named]

/-- The entry of an item stands behind those for what is inside of it, and in front of those for other items. -/
theorem entries_of_addText {text : String} {events : List Log.Event} {first : Syntax.Item} {rest : List Syntax.Item}
    (read : Syntax.readFile text = .ok (first :: rest))
    (added : source.addText text space file = .ok (after, events)) :
    ∃ earlier later, earlier.length = source.entries.length + (Index.innerFindings file space first).length ∧
      after.entries = earlier ++ (source.ownEntries file space first ++ later) := by
  obtain ⟨items, same, rfl⟩ := exists_items_of_addText added
  obtain rfl : first :: rest = items := Except.ok.inj (read.symm.trans same)
  have whole : (Index.itemsFindings file space (first :: rest)).declarations =
      Index.innerFindings file space first ++
        (Index.ownFindings file space first ++ (Index.itemsFindings file space rest).declarations) := by
    rw [← List.append_assoc, ← Index.itemFindings_declarations]
    rfl
  have own : (Index.ownFindings file space first).mapIdx (fun index one =>
        entryAt (source.entries.length + (index + (Index.innerFindings file space first).length)) one) =
      source.ownEntries file space first := by
    unfold ownEntries
    obtain none | ⟨found, only⟩ := Index.ownFindings_cases file space first
    · rw [none]
      rfl
    · rw [only]
      simp
  rw [whole, entries_addAll, List.mapIdx_append, List.mapIdx_append, own, ← List.append_assoc]
  exact ⟨_, _, by simp, rfl⟩

end Source

namespace Marker

variable {source after : Source} {file : Option FilePath} {space : Namespace} {item : String}
  {trees : List Syntax.Tree} {found : Syntax.Item} {spelling : List String} {events : List Log.Event}

theorem accepted_iff (read : Syntax.readItem trees = .ok (found, spelling)) :
    outcome [] trees = .accepted ↔ isRecord found = true := by
  simp [outcome, read]

theorem rejected_iff (read : Syntax.readItem trees = .ok (found, spelling)) :
    outcome [] trees = .rejected spelling ↔ isRecord found = false := by
  simp [outcome, read]

theorem expand_eq (divided : Syntax.trees item = .ok trees) :
    expand "" item = some (String.intercalate " " ((outcome [] trees).words trees)) := by
  have noArguments : Syntax.trees "" = .ok [] := rfl
  simp [expand, noArguments, divided]

/-- The marker and the generator agree on an item, which the generator reads behind the marker. The marker accepts it, and
leaves its words as they are, exactly if the generator finds it, itself, as a class. The marker rejects it, with an error in
front of how it is spelled, exactly if rounds report one diagnostic for it, unless it is an item that has no name of its own:
the marker rejects these, too, but rounds report nothing. -/
theorem outcome_agrees (divided : Syntax.trees item = .ok trees)
    (read : Syntax.readItem trees = .ok (found, spelling))
    (added : source.addText ("#[extract_field]" ++ item) space file = .ok (after, events)) :
    expand "" item = some (String.intercalate " " ((outcome [] trees).words trees)) ∧
    (outcome [] trees = .accepted → expand "" item = some (String.intercalate " " (Syntax.Tree.words trees))) ∧
    (outcome [] trees = .rejected spelling → expand "" item = some (String.intercalate " "
      (["::", "core", "::", "compile_error", "!", "(\"only classes can be annotated\")", ";"] ++ spelling))) ∧
    ∃ first rest earlier later, Syntax.readFile ("#[extract_field]" ++ item) = .ok (first :: rest) ∧
      earlier.length = source.entries.length + (Index.innerFindings file space first).length ∧
      after.entries = earlier ++ (source.ownEntries file space first ++ later) ∧
      (∀ (driver : Driver) (work : Workspace), driver.settings.marker = "extract_field" →
        (driver.run after work).source.diagnostics =
          after.diagnostics ++ after.entries.flatMap (Entry.reported "extract_field")) ∧
      (outcome [] trees = .accepted ↔
        ∃ entry, source.ownEntries file space first = [entry] ∧ entry.declaration ∈ after.marked "extract_field") ∧
      ((outcome [] trees = .rejected spelling ↔
          ((source.ownEntries file space first).flatMap (Entry.reported "extract_field")).length = 1) ↔
        first ≠ .other) := by
  have fileRead : ∃ items, Syntax.readFile ("#[extract_field]" ++ item) = .ok items := by
    unfold Source.addText at added
    split at added
    · contradiction
    · exact ⟨_, by assumption⟩
  obtain ⟨items, fileRead⟩ := fileRead
  obtain ⟨first, rest, rfl, sameKind, marked⟩ := Syntax.readFile_marker divided read fileRead
  obtain ⟨earlier, later, number, entries⟩ := Source.entries_of_addText fileRead added
  refine ⟨expand_eq divided, fun accepted => ?_, fun rejected => ?_, first, rest, earlier, later, fileRead, number, entries,
    fun driver work isMarker => ?_, ?_, ?_⟩
  · rw [expand_eq divided, accepted]
    rfl
  · rw [expand_eq divided, rejected]
    rfl
  · have accounts := driver.run_accountsFor after work
    rw [accounts.source_eq, isMarker, Source.misplaced_eq_reported]
  · rw [accepted_iff read, ← sameKind]
    exact (Source.marked_ownEntries_iff marked fun entry own => by simp [entries, own]).symm
  · rw [rejected_iff read, ← sameKind, Source.reported_ownEntries_iff marked]
    by_cases named : first = .other
    · simp [named, isRecord]
    · simp [named]

def library : String :=
  "extern crate alloc;"

/-- The import of a library is rejected by the marker, which puts an error in front of it, but rounds over a source of it report
nothing. -/
theorem outcome_agrees_library :
    ∃ trees found spelling after events, Syntax.trees library = .ok trees ∧
      Syntax.readItem trees = .ok (found, spelling) ∧
      Source.empty.addText ("#[extract_field]" ++ library) ⟨["app"], by decide⟩ none = .ok (after, events) ∧
      outcome [] trees = .rejected spelling ∧ expand "" library = some (String.intercalate " "
        (["::", "core", "::", "compile_error", "!", "(\"only classes can be annotated\")", ";"] ++ spelling)) ∧
      after.entries.flatMap (Entry.reported "extract_field") = [] ∧
      ∃ rest, Syntax.readFile ("#[extract_field]" ++ library) = .ok (.other :: rest) := by
  have reads : (Syntax.trees library).toOption.bind (fun trees =>
      (Syntax.readItem trees).toOption.map fun found => isRecord found.1) = some false := by
    decide +kernel
  have adds : (Source.empty.addText ("#[extract_field]" ++ library) ⟨["app"], by decide⟩ none).toOption.map
      (fun added => (added.1.entries.flatMap (Entry.reported "extract_field")).length) = some 0 := by
    decide +kernel
  -- From here on, what the import is does not matter, so no step below reads it again.
  generalize library = item at reads adds ⊢
  generalize Source.empty = source at adds ⊢
  obtain ⟨trees, divided, reads⟩ := Option.bind_eq_some_iff.mp reads
  obtain ⟨⟨found, spelling⟩, read, isNone⟩ := Option.map_eq_some_iff.mp reads
  obtain ⟨⟨after, events⟩, added, reports⟩ := Option.map_eq_some_iff.mp adds
  replace divided := Syntax.ok_of_toOption divided
  replace read := Syntax.ok_of_toOption read
  replace added := Syntax.ok_of_toOption added
  have isRejected : outcome [] trees = .rejected spelling := (rejected_iff read).mpr isNone
  obtain ⟨-, -, expanded, first, rest, earlier, later, fileRead, -, entries, -, -, agrees⟩ :=
    outcome_agrees divided read added
  have none := List.length_eq_zero_iff.mp reports
  have isOther : first = .other := Classical.byContradiction fun named => by
    have once := (agrees.mpr named).mp isRejected
    rw [entries, List.flatMap_append, List.flatMap_append] at none
    have ownNone := (List.append_eq_nil_iff.mp (List.append_eq_nil_iff.mp none).2).1
    simp [ownNone] at once
  exact ⟨trees, found, spelling, after, events, divided, read, added, isRejected, expanded isRejected, none, rest, isOther ▸ fileRead⟩

end Marker

end Companion
