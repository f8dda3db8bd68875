import Companion.Proofs.Round.Hosts

/-!
A tree that is loaded again after files have come to it. If what is found in these does not carry a marker, the declarations
with the marker are those from before, in their order and with their fields; only their numbers change.
-/

set_option autoImplicit false

namespace Companion

/-- Whether an entry is that of another source but for its number. -/
structure Entry.Copies (entry twin : Entry) : Prop where
  declaration : twin.declaration = { entry.declaration with id := twin.declaration.id }
  annotations : twin.annotations = entry.annotations
  fields : twin.fields = entry.fields

/-- Whether a declaration stands in another source with its fields, under a number of its own. -/
structure Recurs (source again : Source) (declaration twin : Declaration) : Prop where
  same : twin = { declaration with id := twin.id }
  fields : again.fieldsOf twin = source.fieldsOf declaration

theorem Recurs.twins {source again : Source} {declaration twin : Declaration} (recurs : Recurs source again declaration twin) :
    Twins source again declaration twin := by
  have same := recurs.same
  exact ⟨by rw [same], by rw [same], by rw [same], recurs.fields⟩

namespace Source

variable {source again : Source} {work later : Workspace} {root : FilePath} {marker : String}

theorem copies_numberedFrom (start other : Nat) (found : List Finding) :
    List.Forall₂ Entry.Copies (numberedFrom start found) (numberedFrom other found) := by
  rw [List.forall₂_iff_get]
  refine ⟨by simp, fun index isFirst isSecond => ?_⟩
  simp only [numberedFrom, List.get_eq_getElem, List.getElem_mapIdx]
  exact ⟨rfl, rfl, rfl⟩

def markedEntries (marker : String) (entries : List Entry) : List Entry :=
  entries.filter fun entry => entry.annotations.contains marker

theorem markedEntries_append (marker : String) (first second : List Entry) :
    markedEntries marker (first ++ second) = markedEntries marker first ++ markedEntries marker second :=
  List.filter_append ..

theorem markedEntries_of_copies {entries others : List Entry} (copies : List.Forall₂ Entry.Copies entries others) :
    List.Forall₂ Entry.Copies (markedEntries marker entries) (markedEntries marker others) :=
  List.rel_filter (fun _ _ same => by simp [same.annotations]) copies

theorem markedEntries_of_unmarked {found : List Finding} (unmarked : ∀ one ∈ found, marker ∉ one.annotations) (start : Nat) :
    markedEntries marker (numberedFrom start found) = [] := by
  refine List.filter_eq_nil_iff.mpr fun entry member => ?_
  obtain ⟨index, inside, rfl⟩ := List.mem_mapIdx.mp member
  simpa using unmarked _ (List.getElem_mem inside)

/-- Findings without a marker that come among others move these, and change nothing else about those with the marker. -/
theorem recurs_of_entries {front fresh back : List Finding} (entries : source.entries = numberedFrom 0 (front ++ back))
    (entriesAgain : again.entries = numberedFrom 0 (front ++ fresh ++ back))
    (unmarked : ∀ one ∈ fresh, marker ∉ one.annotations) :
    List.Forall₂ (Recurs source again) (source.declarationsWith marker) (again.declarationsWith marker) := by
  have copies : List.Forall₂ Entry.Copies (markedEntries marker source.entries) (markedEntries marker again.entries) := by
    simp only [entries, entriesAgain, numberedFrom_append, markedEntries_append, markedEntries_of_unmarked unmarked,
      List.append_nil]
    exact List.rel_append (markedEntries_of_copies (copies_numberedFrom ..)) (markedEntries_of_copies (copies_numberedFrom ..))
  have others := (numbered_of_entries entriesAgain).forall₂_declarationsWith copies
  have both := (numbered_of_entries entries).forall₂_declarationsWith others.flip
  refine both.flip.imp ?_
  rintro declaration twin ⟨entry, ⟨twinEntry, copied, rfl, twinFields⟩, rfl, fields⟩
  exact ⟨copied.declaration, by rw [twinFields, fields, copied.fields]⟩

/-- What is found in a file of a tree; nothing, if it cannot be loaded. -/
def findingsIn (files : FileSystem) (root path : FilePath) : List Finding :=
  Reading.allFindings (Reading.ofFile files path (.ofFile root path)).toList

theorem findingsIn_congr {files others : FileSystem} {path : FilePath} (same : others.readText path = files.readText path) :
    findingsIn others root path = findingsIn files root path := by
  unfold findingsIn Reading.ofFile
  rw [same]

theorem fault?_congr {files others : FileSystem} {path : FilePath} (same : others.readText path = files.readText path) :
    fault? others path = fault? files path := by
  unfold fault?
  rw [same]

theorem fault?_eq_none_iff {files : FileSystem} {path : FilePath} :
    fault? files path = none ↔ ∃ text items, files.readText path = .ok text ∧ Syntax.readFile text = .ok items := by
  unfold fault?
  cases files.readText path with
  | error cause => simp
  | ok text =>
      cases read : Syntax.readFile text with
      | error error => simp [read]
      | ok items => simp [read]

theorem findingsIn_of_read {files : FileSystem} {path : FilePath} {text : String} {items : List Syntax.Item}
    (readText : files.readText path = .ok text) (read : Syntax.readFile text = .ok items) :
    findingsIn files root path = (Index.itemsFindings (some path) (.ofFile root path) items).declarations := by
  have reading : Reading.ofFile files path (.ofFile root path) =
      some ⟨text, items, .ofFile root path, some path, read⟩ := by
    simp only [Reading.ofFile, readText, Reading.ofText]
    split
    · rename_i unread
      rw [read] at unread
      contradiction
    · rename_i others readOthers
      obtain rfl : items = others := Except.ok.inj (read.symm.trans readOthers)
      rfl
  simp [findingsIn, reading, Reading.allFindings, Reading.findings]

/-- If no file is at fault, adding files of a tree adds what is found in each of them. -/
theorem allFindings_ofFiles (elsewhere : work.LogsElsewhere) {paths : List FilePath}
    (faultless : ∀ path ∈ paths, fault? work.files path = none) :
    Reading.allFindings (Reading.ofFiles root paths work) = paths.flatMap (findingsIn work.files root) := by
  induction paths generalizing work with
  | nil => rfl
  | cons path others ih =>
      obtain ⟨pathFaultless, othersFaultless⟩ := List.forall_mem_cons.mp faultless
      obtain ⟨after, events, added, -⟩ := addFile_of_faultless empty (Namespace.ofFile root path) pathFaultless
      obtain ⟨-, _, refused⟩ | ⟨reading, _, read, -, -⟩ :=
        addFile_eq empty work.files path (.ofFile root path)
      · rw [refused] at added
        contradiction
      · obtain ⟨further, same⟩ := elsewhere.logAll reading.events
        have rest := ih further (same ▸ othersFaultless)
        rw [same] at rest
        simp only [Reading.ofFiles, read, List.flatMap_cons, ← rest, findingsIn, Reading.allFindings, Option.toList_some,
          List.flatMap_nil, List.append_nil]

theorem faultless_of_ofDirectory (elsewhere : work.LogsElsewhere) (loaded : (ofDirectory work root).2 = .ok source) :
    work.files.isDirectory root = true ∧ (work.files.walk root).error = none ∧
      ∀ path ∈ rustFiles work.files root, fault? work.files path = none := by
  obtain ⟨isDirectory, walked, none, -⟩ := addFiles_of_ofDirectory loaded
  rw [(addFiles_faults empty elsewhere root _).1] at none
  exact ⟨isDirectory, walked, List.findSome?_eq_none_iff.mp none⟩

/-- The entries of a loaded tree are what is found in its Rust files, numbered. -/
theorem entries_of_ofDirectory (elsewhere : work.LogsElsewhere) (loaded : (ofDirectory work root).2 = .ok source) :
    source.entries = numberedFrom 0 ((rustFiles work.files root).flatMap (findingsIn work.files root)) := by
  obtain ⟨-, -, faultless⟩ := faultless_of_ofDirectory elsewhere loaded
  obtain ⟨-, -, -, rfl⟩ := addFiles_of_ofDirectory loaded
  have entries := entries_addFiles empty root (rustFiles work.files root) work
  rw [allFindings_ofFiles elsewhere faultless] at entries
  rw [entries]
  simp [empty]

theorem exists_finding_of_mem_entries (elsewhere : work.LogsElsewhere) (loaded : (ofDirectory work root).2 = .ok source)
    {entry : Entry} (member : entry ∈ source.entries) :
    ∃ path ∈ rustFiles work.files root, ∃ id, ∃ found ∈ findingsIn work.files root path, entry = entryAt id found := by
  rw [entries_of_ofDirectory elsewhere loaded] at member
  obtain ⟨index, inside, rfl⟩ := List.mem_mapIdx.mp member
  obtain ⟨path, scanned, isFound⟩ := List.mem_flatMap.mp (List.getElem_mem inside)
  exact ⟨path, scanned, _, _, isFound, rfl⟩

/-- What is found in a file is found among the items that are read from it. -/
theorem exists_items_of_mem_findingsIn {files : FileSystem} {path : FilePath} {found : Finding}
    (member : found ∈ findingsIn files root path) : ∃ items, Syntax.Item.AllWorded items ∧
      found ∈ (Index.itemsFindings (some path) (.ofFile root path) items).declarations := by
  cases faulty : fault? files path with
  | none =>
      obtain ⟨text, items, readText, read⟩ := fault?_eq_none_iff.mp faulty
      rw [findingsIn_of_read readText read] at member
      exact ⟨items, Syntax.allWorded_readFile read, member⟩
  | some reason =>
      have nothing : findingsIn files root path = [] := by
        obtain ⟨unread, -⟩ | ⟨_, _, -, added, -⟩ := addFile_eq empty files path (.ofFile root path)
        · simp [findingsIn, unread, Reading.allFindings]
        · rw [addFile_of_fault empty _ faulty] at added
          contradiction
      rw [nothing] at member
      contradiction

/-- A class that is found in a file stands in it, in modules below the namespace of the file. -/
theorem standsIn_of_mem_findingsIn {files : FileSystem} {path : FilePath} {found : Finding}
    (member : found ∈ findingsIn files root path) (isClass : found.kind = .classLike) :
    Index.StandsIn (some path) (.ofFile root path) found := by
  obtain ⟨items, worded, isFound⟩ := exists_items_of_mem_findingsIn member
  exact Index.standsIn_of_mem_itemsFindings worded isClass isFound

theorem location_of_mem_findingsIn {files : FileSystem} {path : FilePath} {found : Finding}
    (member : found ∈ findingsIn files root path) : ∃ place, found.location = Index.locationIn (some path) place := by
  obtain ⟨items, -, isFound⟩ := exists_items_of_mem_findingsIn member
  exact Index.location_of_mem_itemsFindings isFound

/-- Whether a file can be loaded, and nothing in it carries a marker. -/
structure Unmarked (files : FileSystem) (root : FilePath) (marker : String) (path : FilePath) : Prop where
  faultless : fault? files path = none
  annotations : ∀ one ∈ findingsIn files root path, marker ∉ one.annotations

/-- A tree that was loaded can be loaded again when files have come among those that it had, as long as these can be loaded and
all directories be listed; and if nothing in the files carries a marker, what carries it is what did so before. -/
theorem ofDirectory_again (elsewhere : work.LogsElsewhere) (loaded : (ofDirectory work root).2 = .ok source)
    (elsewhereLater : later.LogsElsewhere) (isDirectory : later.files.isDirectory root = true)
    (walked : (later.files.walk root).error = none) {front fresh back : List FilePath}
    (scanned : rustFiles work.files root = front ++ back)
    (scannedAgain : rustFiles later.files root = front ++ fresh ++ back)
    (kept : ∀ path ∈ front ++ back, ∀ text, work.files.readText path = .ok text → later.files.readText path = .ok text)
    (unmarked : ∀ path ∈ fresh, Unmarked later.files root marker path) :
    ∃ again, (ofDirectory later root).2 = .ok again ∧
      List.Forall₂ (Recurs source again) (source.declarationsWith marker) (again.declarationsWith marker) := by
  obtain ⟨-, -, faultless⟩ := faultless_of_ofDirectory elsewhere loaded
  have entries := entries_of_ofDirectory elsewhere loaded
  rw [scanned] at faultless entries
  have same : ∀ path ∈ front ++ back, later.files.readText path = work.files.readText path := fun path member => by
    obtain ⟨text, -, read, -⟩ := fault?_eq_none_iff.mp (faultless path member)
    rw [kept path member text read, read]
  have inFront : ∀ path ∈ front, later.files.readText path = work.files.readText path := fun path member =>
    same path (List.mem_append_left back member)
  have inBack : ∀ path ∈ back, later.files.readText path = work.files.readText path := fun path member =>
    same path (List.mem_append_right front member)
  have faultlessLater : ∀ path ∈ rustFiles later.files root, fault? later.files path = none := fun path member => by
    rw [scannedAgain] at member
    obtain older | isBack := List.mem_append.mp member
    · obtain isFront | isFresh := List.mem_append.mp older
      · rw [fault?_congr (inFront path isFront), faultless path (List.mem_append_left back isFront)]
      · exact (unmarked path isFresh).faultless
    · rw [fault?_congr (inBack path isBack), faultless path (List.mem_append_right front isBack)]
  obtain ⟨again, loadedAgain⟩ := exists_of_faultless elsewhereLater isDirectory walked faultlessLater
  have entriesAgain := entries_of_ofDirectory elsewhereLater loadedAgain
  rw [scannedAgain, List.flatMap_append, List.flatMap_append,
    List.flatMap_congr fun path member => findingsIn_congr (inFront path member),
    List.flatMap_congr fun path member => findingsIn_congr (inBack path member)] at entriesAgain
  rw [List.flatMap_append] at entries
  refine ⟨again, loadedAgain, recurs_of_entries entries entriesAgain fun one member => ?_⟩
  obtain ⟨path, isFresh, isFound⟩ := List.mem_flatMap.mp member
  exact (unmarked path isFresh).annotations one isFound

end Source

end Companion
