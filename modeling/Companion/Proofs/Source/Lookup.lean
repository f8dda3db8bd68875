import Companion.Proofs.Source.Faults
import Mathlib.Data.List.Induction

/-!
Fields are looked up by number, so a lookup is right as long as every entry has the number of its place. That holds of
each source that was built by loading texts, files and trees, with rounds and failures in between; and each entry of it
records one place of one of the texts that were read.
-/

set_option autoImplicit false

namespace Companion

namespace Index

/-- The fields that belong to a subject: of a struct, one for each of its members, in order, known by the plain name of
the member or by its position; of anything else, none. -/
def Subject.HasFields : Subject → List Field → Prop
  | .item (.record _ _ _ members), fields =>
      fields.length = members.length ∧
        ∀ (position : Nat) (member : Syntax.Member), members[position]? = some member →
          fields[position]? = some
            ⟨match member.name with
              | some name => plainName name
              | none => "_" ++ toString position,
            .ofSyntax member.type, documentation member.attributes⟩
  | _, fields => fields = []

theorem Subject.hasFields_fields (subject : Subject) : subject.HasFields subject.fields := by
  cases subject with
  | item item =>
      cases item with
      | record head name isGeneric members =>
          refine ⟨by simp [fields, fieldsOf], fun position member here => ?_⟩
          cases named : member.name <;>
            simp [fields, fieldsOf, List.getElem?_zipIdx, here, fieldOf, memberName, named]
      | named | implementation | module | other => rfl
  | member => rfl

end Index

namespace Source

open Companion.Index (Address Records Stands Subject)

/-- Whether every entry has the number of its place. -/
def Numbered (source : Source) : Prop :=
  ∀ (place : Nat) (entry : Entry), source.entries[place]? = some entry → entry.declaration.id = place

def numberedFrom (start : Nat) (found : List Finding) : List Entry :=
  found.mapIdx fun index one => entryAt (start + index) one

@[simp] theorem length_numberedFrom (start : Nat) (found : List Finding) :
    (numberedFrom start found).length = found.length := by
  simp [numberedFrom]

theorem numberedFrom_append (start : Nat) (first second : List Finding) :
    numberedFrom start (first ++ second) = numberedFrom start first ++ numberedFrom (start + first.length) second := by
  simp [numberedFrom, List.mapIdx_append, Nat.add_assoc, Nat.add_comm first.length]

theorem numbered_of_entries {source : Source} {found : List Finding} (entries : source.entries = numberedFrom 0 found) :
    source.Numbered := by
  intro place entry here
  rw [entries, numberedFrom, List.getElem?_mapIdx] at here
  obtain ⟨one, -, rfl⟩ := Option.map_eq_some_iff.mp here
  exact Nat.zero_add place

theorem Numbered.fieldsOf {source : Source} (numbered : source.Numbered) {entry : Entry}
    (member : entry ∈ source.entries) : source.fieldsOf entry.declaration = entry.fields := by
  obtain ⟨place, here⟩ := List.mem_iff_getElem?.mp member
  rw [Source.fieldsOf, numbered place entry here, here]

theorem Numbered.forall₂_declarationsWith {α : Type} {source : Source} (numbered : source.Numbered) {tag : String}
    {relates : α → Entry → Prop} {others : List α}
    (related : List.Forall₂ relates others (source.entries.filter fun entry => entry.annotations.contains tag)) :
    List.Forall₂ (fun other declaration => ∃ entry, relates other entry ∧ entry.declaration = declaration ∧
      source.fieldsOf declaration = entry.fields) others (source.declarationsWith tag) := by
  have ownFields : ∀ entry ∈ source.entries.filter fun entry => entry.annotations.contains tag,
      source.fieldsOf entry.declaration = entry.fields := fun entry tagged =>
    numbered.fieldsOf (List.mem_of_mem_filter tagged)
  rw [declarationsWith, List.forall₂_map_right_iff]
  have flipped : List.Forall₂ (flip relates) (source.entries.filter fun entry => entry.annotations.contains tag) others :=
    related.flip
  have both := (List.forall₂_and_left _ _).mpr ⟨ownFields, flipped⟩
  exact List.Forall₂.flip (both.imp fun entry other holds => ⟨entry, holds.2, rfl, holds.1⟩)

/-- A Rust text that was read, with the namespace in which its items live. -/
structure Reading where
  text : String
  items : List Syntax.Item
  space : Namespace
  file : Option FilePath
  read : Syntax.readFile text = .ok items

namespace Reading

def findings (reading : Reading) : Index.Findings :=
  Index.itemsFindings reading.file reading.space reading.items

def events (reading : Reading) : List Log.Event :=
  reading.findings.events ++ [textEvent reading.space reading.file reading.findings.declarations.length]

/-- The reading of a text, unless it cannot be read. -/
def ofText (text : String) (space : Namespace) (file : Option FilePath) : Option Reading :=
  match read : Syntax.readFile text with
  | .error _ => none
  | .ok items => some ⟨text, items, space, file, read⟩

/-- The reading of a file, unless it cannot be read. -/
def ofFile (files : FileSystem) (path : FilePath) (space : Namespace) : Option Reading :=
  match files.readText path with
  | .error _ => none
  | .ok text => ofText text space (some path)

def ofFiles (root : FilePath) : List FilePath → Workspace → List Reading
  | [], _ => []
  | path :: paths, work =>
      match ofFile work.files path (.ofFile root path) with
      | none => []
      | some reading => reading :: ofFiles root paths (work.logAll reading.events)

def allFindings (readings : List Reading) : List Finding :=
  readings.flatMap (·.findings.declarations)

/-- The tagged entries of a reading record the places of the text that carry the tag: every such place, in order. -/
theorem forall₂_records (tag : String) (reading : Reading) (start : Nat) :
    ∃ addresses : List Address,
      List.Forall₂ (Records reading.items reading.space reading.file) addresses
        ((numberedFrom start reading.findings.declarations).filter fun entry => entry.annotations.contains tag) ∧
      (∀ address, address ∈ addresses ↔
        ∃ modules subject, Stands reading.items address modules subject ∧ subject.Carries tag) ∧
      addresses.Pairwise Address.Before := by
  have visit : reading.findings.declarations = _ :=
    Index.itemsFindings_eq reading.file reading.space reading.items 0
  have stand : ∀ one ∈ Index.occurrencesFrom 0 reading.items,
      Stands reading.items one.address one.modules one.subject :=
    fun one visited => Index.mem_occurrencesFrom_iff.mp visited
  have ordered := (Index.ordered_occurrencesFrom 0 reading.items).filter fun one => one.subject.Carries tag
  rw [visit]
  refine ⟨_, Index.forall₂_records (Syntax.allWorded_readFile reading.read) tag stand start, fun address => ⟨?_, ?_⟩, List.pairwise_map.mpr ordered⟩
  · intro member
    obtain ⟨one, visited, rfl⟩ := List.mem_map.mp member
    obtain ⟨inOrder, carries⟩ := List.mem_filter.mp visited
    exact ⟨one.modules, one.subject, stand one inOrder, by simpa using carries⟩
  · rintro ⟨modules, subject, stands, carries⟩
    refine List.mem_map.mpr ⟨⟨address, modules, subject⟩, List.mem_filter.mpr ⟨?_, by simpa using carries⟩, rfl⟩
    exact Index.mem_occurrencesFrom_iff.mpr stands

/-- The tagged entries of several readings record the places that carry the tag: every such place of every reading, in
the order of the readings and of each text, with the number of the reading. -/
theorem forall₂_allRecords (tag : String) (readings : List Reading) :
    ∃ places : List (Nat × Address),
      List.Forall₂ (fun place entry => ∃ reading, readings[place.1]? = some reading ∧
          Records reading.items reading.space reading.file place.2 entry) places
        ((numberedFrom 0 (allFindings readings)).filter fun entry => entry.annotations.contains tag) ∧
      (∀ place, place ∈ places ↔ ∃ reading modules subject, readings[place.1]? = some reading ∧
        Stands reading.items place.2 modules subject ∧ subject.Carries tag) ∧
      places.Pairwise (Prod.Lex (· < ·) Address.Before) := by
  induction readings using List.reverseRecOn with
  | nil => exact ⟨[], .nil, by simp, .nil⟩
  | append_singleton readings last ih =>
      obtain ⟨places, records, complete, ordered⟩ := ih
      obtain ⟨addresses, lastRecords, lastComplete, lastOrdered⟩ :=
        last.forall₂_records tag (0 + (allFindings readings).length)
      have whole : allFindings (readings ++ [last]) = allFindings readings ++ last.findings.declarations := by
        simp [allFindings]
      have isLast : (readings ++ [last])[readings.length]? = some last := by simp
      have earlier : ∀ place ∈ places, place.1 < readings.length := fun place member => by
        obtain ⟨reading, -, -, here, -⟩ := (complete place).mp member
        exact (List.getElem?_eq_some_iff.mp here).1
      refine ⟨places ++ addresses.map (readings.length, ·), ?_, fun place => ⟨?_, ?_⟩, ?_⟩
      · rw [whole, numberedFrom_append, List.filter_append]
        refine List.rel_append (records.imp fun place entry related => ?_) ?_
        · obtain ⟨reading, here, recorded⟩ := related
          exact ⟨reading, by rw [List.getElem?_append_left (List.getElem?_eq_some_iff.mp here).1, here], recorded⟩
        · exact List.forall₂_map_left_iff.mpr (lastRecords.imp fun address entry recorded => ⟨last, isLast, recorded⟩)
      · intro member
        obtain before | inLast := List.mem_append.mp member
        · obtain ⟨reading, modules, subject, here, stands⟩ := (complete place).mp before
          exact ⟨reading, modules, subject, by rw [List.getElem?_append_left (earlier place before), here], stands⟩
        · obtain ⟨address, isAddress, rfl⟩ := List.mem_map.mp inLast
          obtain ⟨modules, subject, stands⟩ := (lastComplete address).mp isAddress
          exact ⟨last, modules, subject, isLast, stands⟩
      · rintro ⟨reading, modules, subject, here, stands⟩
        obtain below | above := Nat.lt_or_ge place.1 readings.length
        · rw [List.getElem?_append_left below] at here
          exact List.mem_append_left _ ((complete place).mpr ⟨reading, modules, subject, here, stands⟩)
        · have bound := (List.getElem?_eq_some_iff.mp here).1
          rw [List.length_append, List.length_singleton] at bound
          have atEnd : place.1 = readings.length := by omega
          rw [atEnd, isLast] at here
          cases here
          have inLast : place.2 ∈ addresses := (lastComplete place.2).mpr ⟨modules, subject, stands⟩
          exact List.mem_append_right _ (List.mem_map.mpr ⟨place.2, inLast, by rw [← atEnd]⟩)
      · refine List.pairwise_append.mpr ⟨ordered, ?_, fun place before other inLast => ?_⟩
        · exact List.pairwise_map.mpr (lastOrdered.imp fun before => .right _ before)
        · obtain ⟨address, -, rfl⟩ := List.mem_map.mp inLast
          exact .left _ _ (earlier place before)

end Reading

theorem addText_eq (source : Source) (text : String) (space : Namespace) (file : Option FilePath) :
    (Reading.ofText text space file = none ∧ ∃ reason, source.addText text space file = .error reason) ∨
      ∃ reading, Reading.ofText text space file = some reading ∧
        source.addText text space file = .ok (source.addAll reading.findings.declarations, reading.events) := by
  unfold addText
  cases read : Syntax.readFile text with
  | error reason =>
      refine .inl ⟨?_, _, rfl⟩
      unfold Reading.ofText
      split
      · rfl
      · rename_i readable
        rw [read] at readable
        contradiction
  | ok items =>
      refine .inr ⟨⟨text, items, space, file, read⟩, ?_, rfl⟩
      unfold Reading.ofText
      split
      · rename_i unreadable
        rw [read] at unreadable
        contradiction
      · rename_i readable
        rw [read] at readable
        cases readable
        rfl

theorem addFile_eq (source : Source) (files : FileSystem) (path : FilePath) (space : Namespace) :
    (Reading.ofFile files path space = none ∧ ∃ reason, source.addFile files path space = .error reason) ∨
      ∃ reading after, Reading.ofFile files path space = some reading ∧
        source.addFile files path space = .ok (after, reading.events) ∧
        after.entries = (source.addAll reading.findings.declarations).entries := by
  unfold addFile Reading.ofFile
  cases files.readText path with
  | error cause => exact .inl ⟨rfl, _, rfl⟩
  | ok text =>
      obtain ⟨none, reason, refused⟩ | ⟨reading, some, added⟩ := source.addText_eq text space (some path)
      · simp only [refused]
        exact .inl ⟨none, _, rfl⟩
      · simp only [added]
        exact .inr ⟨reading, _, some, rfl, rfl⟩

/-- Files that are added one behind another add what was found in those that could be read. -/
theorem entries_addFiles (source : Source) (root : FilePath) (paths : List FilePath) (work : Workspace) :
    (addFiles root paths source work).source.entries = source.entries ++
      numberedFrom source.entries.length (Reading.allFindings (Reading.ofFiles root paths work)) := by
  induction paths generalizing source work with
  | nil => simp [addFiles, Reading.ofFiles, Reading.allFindings, numberedFrom]
  | cons path others ih =>
      obtain ⟨none, reason, refused⟩ | ⟨reading, after, some, added, entries⟩ :=
        addFile_eq source work.files path (.ofFile root path)
      · simp [addFiles, refused, Reading.ofFiles, none, Reading.allFindings, numberedFrom]
      · have longer : after.entries = source.entries ++
            numberedFrom source.entries.length reading.findings.declarations := entries.trans (entries_addAll _ _)
        have split : Reading.allFindings (reading :: Reading.ofFiles root others (work.logAll reading.events)) =
            reading.findings.declarations ++
              Reading.allFindings (Reading.ofFiles root others (work.logAll reading.events)) := by
          simp [Reading.allFindings]
        simp only [addFiles, added, Reading.ofFiles, some]
        rw [ih, longer, split, numberedFrom_append, List.append_assoc, List.length_append, length_numberedFrom]

/-- What can be done with a source. The files, the log and the driver are those of the moment. -/
inductive Operation where
  | addText (text : String) (space : Namespace) (file : Option FilePath)
  | addFile (files : FileSystem) (path : FilePath) (space : Namespace)
  | addDirectory (work : Workspace) (root : FilePath)
  | report (declaration : Declaration) (message : String)
  | takeDiagnostics
  | round (driver : Driver) (work : Workspace)

def apply (source : Source) : Operation → Source
  | .addText text space file =>
      match source.addText text space file with
      | .ok (after, _) => after
      | .error _ => source
  | .addFile files path space =>
      match source.addFile files path space with
      | .ok (after, _) => after
      | .error _ => source
  | .addDirectory work root => (source.addDirectory work root).source
  | .report declaration message => source.report declaration message
  | .takeDiagnostics => source.takeDiagnostics.1
  | .round driver work => (driver.run source work).source

def perform (operations : List Operation) : Source :=
  operations.foldl apply empty

def Operation.readings : Operation → List Reading
  | .addText text space file => (Reading.ofText text space file).toList
  | .addFile files path space => (Reading.ofFile files path space).toList
  | .addDirectory work root =>
      if work.files.isDirectory root then Reading.ofFiles root (rustFiles work.files root) work else []
  | .report .. | .takeDiagnostics | .round .. => []

def readings (operations : List Operation) : List Reading :=
  operations.flatMap Operation.readings

/-- An operation adds the entries of what it reads, numbered behind those that are there. -/
theorem entries_apply (source : Source) (operation : Operation) :
    (source.apply operation).entries = source.entries ++
      numberedFrom source.entries.length (Reading.allFindings operation.readings) := by
  have nothing : source.entries = source.entries ++ numberedFrom source.entries.length (Reading.allFindings []) := by
    simp [Reading.allFindings, numberedFrom]
  cases operation with
  | addText text space file =>
      obtain ⟨none, reason, refused⟩ | ⟨reading, some, added⟩ := source.addText_eq text space file
      · simpa only [apply, refused, Operation.readings, none, Option.toList_none] using nothing
      · simp only [apply, added, Operation.readings, some]
        simpa [Reading.allFindings, numberedFrom] using entries_addAll source reading.findings.declarations
  | addFile files path space =>
      obtain ⟨none, reason, refused⟩ | ⟨reading, after, some, added, entries⟩ :=
        addFile_eq source files path space
      · simpa only [apply, refused, Operation.readings, none, Option.toList_none] using nothing
      · simp only [apply, added, Operation.readings, some]
        rw [entries]
        simpa [Reading.allFindings, numberedFrom] using entries_addAll source reading.findings.declarations
  | addDirectory work root =>
      by_cases isDirectory : work.files.isDirectory root = true
      · simp only [apply, addDirectory, Operation.readings, isDirectory, if_true]
        exact entries_addFiles source root _ work
      · simpa [apply, addDirectory, Operation.readings, isDirectory] using nothing
  | report | takeDiagnostics => exact nothing
  | round driver work =>
      have same : (driver.run source work).source.entries = source.entries := by
        rw [(Driver.run_accountsFor driver source work).source_eq]
      simp only [apply, Operation.readings]
      rwa [same]

/-- Behind operations there are the entries of all that was read, numbered from zero. -/
theorem entries_perform (operations : List Operation) :
    (perform operations).entries = numberedFrom 0 (Reading.allFindings (readings operations)) := by
  induction operations using List.reverseRecOn with
  | nil => rfl
  | append_singleton operations last ih =>
      have split : Reading.allFindings (readings (operations ++ [last])) =
          Reading.allFindings (readings operations) ++ Reading.allFindings last.readings := by
        simp [Reading.allFindings, readings]
      have next : perform (operations ++ [last]) = (perform operations).apply last := by
        simp [perform]
      rw [next, entries_apply, ih, split, numberedFrom_append, length_numberedFrom, Nat.zero_add]

/-- What is passed to register a declaration that is known without a file. -/
structure Call where
  marker : String
  space : Namespace
  name : String
  kind : DeclarationKind
  fields : List Field

def Call.finding (call : Call) : Finding :=
  ⟨[call.marker], call.name, call.space, call.kind, none, call.fields⟩

def declareCall (source : Source) (call : Call) : Source :=
  (source.declare call.marker call.space call.name call.kind call.fields).1

def ofCalls (calls : List Call) : Source :=
  calls.foldl declareCall empty

theorem entries_ofCalls (calls : List Call) : (ofCalls calls).entries = numberedFrom 0 (calls.map Call.finding) := by
  have added : ofCalls calls = empty.addAll (calls.map Call.finding) := by
    rw [ofCalls, addAll, List.foldl_map]
    rfl
  rw [added, entries_addAll, numberedFrom]
  simp [empty]

/-- A declaration of what stands at an address of a text, whose lookup gives the fields that belong to that. -/
structure OwnsFields (source : Source) (reading : Reading) (address : Address) (declaration : Declaration) : Prop where
  subject : ∃ modules subject, Stands reading.items address modules subject ∧
    subject.kind? = some declaration.kind ∧ declaration.name = subject.name ∧
    declaration.space.segments = reading.space.segments ++ modules.map Index.plainName ++ subject.owners ∧
    declaration.location = Index.locationIn reading.file subject.place ∧
    subject.HasFields (source.fieldsOf declaration)

theorem OwnsFields.of_records {source : Source} {reading : Reading} {address : Address} {entry : Entry}
    (records : Records reading.items reading.space reading.file address entry)
    (ownFields : source.fieldsOf entry.declaration = entry.fields) :
    source.OwnsFields reading address entry.declaration := by
  obtain ⟨modules, subject, stands, kind, name, segments, location, fields⟩ := records.subject
  have hasFields : subject.HasFields (source.fieldsOf entry.declaration) := by
    rw [ownFields, fields]
    exact subject.hasFields_fields
  exact ⟨modules, subject, stands, kind, name, segments, location, hasFields⟩

theorem forall₂_calls (tag : String) (calls : List Call) (start : Nat) :
    List.Forall₂ (fun call entry => entry.declaration.name = call.name ∧ entry.declaration.space = call.space ∧
        entry.declaration.kind = call.kind ∧ entry.declaration.location = none ∧ entry.fields = call.fields)
      (calls.filter fun call => call.marker = tag)
      ((numberedFrom start (calls.map Call.finding)).filter fun entry => entry.annotations.contains tag) := by
  induction calls generalizing start with
  | nil => exact .nil
  | cons call others ih =>
      have split : numberedFrom start ((call :: others).map Call.finding) =
          entryAt start call.finding :: numberedFrom (start + 1) (others.map Call.finding) :=
        numberedFrom_append start [call.finding] (others.map Call.finding)
      rw [split]
      by_cases tagged : call.marker = tag
      · rw [List.filter_cons_of_pos (by simpa using tagged),
          List.filter_cons_of_pos (by simp [Call.finding, tagged])]
        exact .cons ⟨rfl, rfl, rfl, rfl, rfl⟩ (ih (start + 1))
      · rw [List.filter_cons_of_neg (by simpa using tagged),
          List.filter_cons_of_neg (by simpa [Call.finding] using Ne.symm tagged)]
        exact ih (start + 1)

/-- Whatever is done with a source of texts, each entry has the number of its place, and the declarations with a tag are
those of the places that carry it in what was read: all of these places, in order, and each with the fields that belong
to it. So it is with declarations from memory and the fields that were passed with them. -/
theorem ownsFields_perform :
    (∀ operations : List Operation, (perform operations).Numbered ∧
      ∀ tag : String, ∃ places : List (Nat × Address),
        List.Forall₂ (fun place declaration => ∃ reading, (readings operations)[place.1]? = some reading ∧
            (perform operations).OwnsFields reading place.2 declaration)
          places ((perform operations).declarationsWith tag) ∧
        (∀ place, place ∈ places ↔ ∃ reading modules subject, (readings operations)[place.1]? = some reading ∧
          Stands reading.items place.2 modules subject ∧ subject.Carries tag) ∧
        places.Pairwise (Prod.Lex (· < ·) Address.Before)) ∧
    ∀ calls : List Call, (ofCalls calls).Numbered ∧
      (∀ call : Call,
        ((ofCalls calls).declare call.marker call.space call.name call.kind call.fields).2 = calls.length) ∧
      ∀ tag : String,
        List.Forall₂ (fun call declaration => declaration.name = call.name ∧ declaration.space = call.space ∧
            declaration.kind = call.kind ∧ declaration.location = none ∧
            (ofCalls calls).fieldsOf declaration = call.fields)
          (calls.filter fun call => call.marker = tag) ((ofCalls calls).declarationsWith tag) := by
  constructor
  · intro operations
    have entries := entries_perform operations
    have numbered : (perform operations).Numbered := numbered_of_entries entries
    refine ⟨numbered, fun tag => ?_⟩
    obtain ⟨places, records, complete, ordered⟩ := Reading.forall₂_allRecords tag (readings operations)
    rw [← entries] at records
    refine ⟨places, (numbered.forall₂_declarationsWith records).imp fun place declaration own => ?_, complete, ordered⟩
    obtain ⟨entry, ⟨reading, here, recorded⟩, rfl, ownFields⟩ := own
    exact ⟨reading, here, .of_records recorded ownFields⟩
  · intro calls
    have entries := entries_ofCalls calls
    have numbered : (ofCalls calls).Numbered := numbered_of_entries entries
    refine ⟨numbered, fun call => by simp [declare, entries], fun tag => ?_⟩
    have related := forall₂_calls tag calls 0
    rw [← entries] at related
    refine (numbered.forall₂_declarationsWith related).imp fun call declaration own => ?_
    obtain ⟨entry, ⟨name, space, kind, location, fields⟩, rfl, ownFields⟩ := own
    exact ⟨name, space, kind, location, ownFields.trans fields⟩

/-- Structs of one name in one namespace, each with the field that is its own. -/
example :
    let source := perform [.addText "#[m] struct S { x: u8 } #[m] struct S(bool);" ⟨["app"], by decide⟩ none]
    (source.declarationsWith "m").map (fun found => (source.fieldsOf found).map (·.name)) = [["x"], ["_0"]] := by
  decide +kernel

end Source

end Companion
