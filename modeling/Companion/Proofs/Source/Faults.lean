import Companion.Proofs.FileSystem.Walk
import Companion.Proofs.Round.Effects
import Companion.Proofs.Source.Indexing

/-!
What of a tree cannot be loaded, and for what reason: directories that cannot be listed, and files that cannot be read or that
are no Rust source. Loading stops at the first of them; a source that is loaded in full holds each of its files, in the order
in which they were walked.
-/

set_option autoImplicit false

namespace Companion

namespace Workspace

/-- Whether the log is kept outside the tree of files. -/
def LogsElsewhere (work : Workspace) : Prop :=
  ∀ names, ¬ work.LogsTo names

theorem logsElsewhere_ofFiles (files : FileSystem) : (ofFiles files).LogsElsewhere := fun names logs => by
  simp [LogsTo, ofFiles, Logger.silent] at logs

theorem LogsElsewhere.log {work : Workspace} (elsewhere : work.LogsElsewhere) (event : Log.Event) :
    (work.log event).LogsElsewhere := by
  unfold LogsElsewhere
  rwa [logsTo_log]

theorem LogsElsewhere.files_log {work : Workspace} (elsewhere : work.LogsElsewhere) (event : Log.Event) :
    (work.log event).files = work.files := by
  unfold Workspace.log
  split
  · dsimp only
    split
    · rfl
    · rfl
    · rename_i names target
      exact absurd target (elsewhere names)
  · rfl

theorem LogsElsewhere.logAll {work : Workspace} (elsewhere : work.LogsElsewhere) (events : List Log.Event) :
    (work.logAll events).LogsElsewhere ∧ (work.logAll events).files = work.files := by
  induction events generalizing work with
  | nil => exact ⟨elsewhere, rfl⟩
  | cons event others ih =>
      obtain ⟨further, same⟩ := ih (elsewhere.log event)
      exact ⟨further, same.trans (elsewhere.files_log event)⟩

@[simp] theorem output_log (work : Workspace) (event : Log.Event) : (work.log event).output = work.output := by
  unfold log
  split
  · dsimp only
    split <;> rfl
  · rfl

@[simp] theorem output_logAll (work : Workspace) (events : List Log.Event) :
    (work.logAll events).output = work.output := by
  induction events generalizing work with
  | nil => rfl
  | cons event others ih => exact (ih _).trans (work.output_log event)

end Workspace

def SourceError.path : SourceError → FilePath
  | unreadable path _ | unparsable path _ _ | notDirectory path => path
  | unwalkable cause => cause.path

namespace Source

def fault? (files : FileSystem) (path : FilePath) : Option SourceError :=
  match files.readText path with
  | .error cause => some (.unreadable path cause)
  | .ok text =>
      match Syntax.readFile text with
      | .error error => some (.ofSyntax path error)
      | .ok _ => none

theorem path_of_fault? {files : FileSystem} {path : FilePath} {reason : SourceError}
    (faulty : fault? files path = some reason) : reason.path = path := by
  unfold fault? at faulty
  split at faulty
  · cases faulty
    rfl
  · split at faulty
    · cases faulty
      rfl
    · contradiction

variable {files : FileSystem} {path : FilePath}

theorem addFile_of_fault (source : Source) (space : Namespace) {reason : SourceError} (faulty : fault? files path = some reason) :
    source.addFile files path space = .error reason := by
  unfold fault? at faulty
  unfold addFile addText
  cases read : files.readText path with
  | error cause =>
      rw [read] at faulty
      exact congrArg Except.error (Option.some.inj faulty)
  | ok text =>
      rw [read] at faulty
      dsimp only at faulty ⊢
      cases parsed : Syntax.readFile text with
      | error flaw =>
          rw [parsed] at faulty
          exact congrArg Except.error (Option.some.inj faulty)
      | ok items =>
          rw [parsed] at faulty
          contradiction

theorem addFile_of_faultless (source : Source) (space : Namespace) (faultless : fault? files path = none) :
    ∃ after events, source.addFile files path space = .ok (after, events) ∧ after.files = source.files ++ [path] := by
  unfold fault? at faultless
  unfold addFile addText
  cases read : files.readText path with
  | error cause =>
      rw [read] at faultless
      contradiction
  | ok text =>
      rw [read] at faultless
      dsimp only at faultless ⊢
      cases parsed : Syntax.readFile text with
      | error flaw =>
          rw [parsed] at faultless
          contradiction
      | ok items => exact ⟨_, _, rfl, by simp only [files_addAll]⟩

theorem files_of_addFile {source after : Source} {space : Namespace} {events : List Log.Event}
    (added : source.addFile files path space = .ok (after, events)) : after.files = source.files ++ [path] := by
  obtain ⟨_, _, -, -, rfl⟩ := exists_items_of_addFile added
  rw [files_addAll]

variable {work : Workspace} {root : FilePath}

/-- Adding files prints nothing, and unless it stops each of them is added. -/
theorem addFiles_whole (source : Source) (work : Workspace) (root : FilePath) (paths : List FilePath) :
    (addFiles root paths source work).work.output = work.output ∧
      ((addFiles root paths source work).error = none →
        (addFiles root paths source work).source.files = source.files ++ paths) := by
  induction paths generalizing source work with
  | nil => simp [addFiles]
  | cons path others ih =>
      cases added : source.addFile work.files path (Namespace.ofFile root path) with
      | error reason => simp [addFiles, added]
      | ok result =>
          obtain ⟨after, events⟩ := result
          obtain ⟨output, whole⟩ := ih after (work.logAll events)
          simp only [addFiles, added]
          refine ⟨output.trans (work.output_logAll events), fun none => ?_⟩
          rw [whole none, files_of_addFile added, List.append_assoc, List.singleton_append]

theorem output_ofDirectory (work : Workspace) (root : FilePath) : (ofDirectory work root).1.output = work.output := by
  have output := (addFiles_whole empty work root (rustFiles work.files root)).1
  unfold ofDirectory addDirectory
  cases work.files.isDirectory root with
  | false => rfl
  | true =>
      simp only [if_true]
      split <;> exact output

/-- A tree that was loaded is in a directory whose Rust files were added, the walk having come to its end. -/
theorem addFiles_of_ofDirectory {source : Source} (loaded : (ofDirectory work root).2 = .ok source) :
    work.files.isDirectory root = true ∧ (work.files.walk root).error = none ∧
      (addFiles root (rustFiles work.files root) empty work).error = none ∧
      source = (addFiles root (rustFiles work.files root) empty work).source := by
  unfold ofDirectory addDirectory at loaded
  cases isDirectory : work.files.isDirectory root with
  | false =>
      rw [isDirectory] at loaded
      cases loaded
  | true =>
      simp only [isDirectory, if_true] at loaded
      split at loaded
      · cases loaded
      · rename_i none
        obtain ⟨walked, added⟩ := Option.or_eq_none_iff.mp none
        cases loaded
        exact ⟨rfl, by simpa using added, walked, rfl⟩

/-- A tree that was loaded holds its Rust files, in the order in which they were walked. -/
theorem files_of_ofDirectory {source : Source} (loaded : (ofDirectory work root).2 = .ok source) :
    source.files = rustFiles work.files root := by
  obtain ⟨-, -, none, rfl⟩ := addFiles_of_ofDirectory loaded
  simpa [empty] using (addFiles_whole empty work root (rustFiles work.files root)).2 none

/-- Adding files stops at the first that is at fault, and changes no file unless the log is one. -/
theorem addFiles_faults (source : Source) (elsewhere : work.LogsElsewhere) (root : FilePath) (paths : List FilePath) :
    (addFiles root paths source work).error = paths.findSome? (fault? work.files) ∧
      (addFiles root paths source work).work.files = work.files := by
  induction paths generalizing source work with
  | nil => exact ⟨rfl, rfl⟩
  | cons path others ih =>
      cases fault : fault? work.files path with
      | some reason => simp only [addFiles, addFile_of_fault source _ fault, List.findSome?_cons, fault, and_self]
      | none =>
          obtain ⟨after, events, added, -⟩ := addFile_of_faultless source (Namespace.ofFile root path) fault
          obtain ⟨further, same⟩ := elsewhere.logAll events
          obtain ⟨error, sameFiles⟩ := ih after further
          simp only [addFiles, added, List.findSome?_cons, fault]
          exact ⟨by rw [error, same], sameFiles.trans same⟩

/-- Why loading ends at something that stands below a directory, if it does. -/
def faultAt? (files : FileSystem) (root : FilePath) : List String × Node.Face → Option SourceError
  | (names, .file _) => if isRustFile (root.below names) then fault? files (root.below names) else none
  | (_, .link _) => none
  | (names, .directory) =>
      match files.list (root.below names) with
      | .error cause => some (.unwalkable ⟨root.below names, cause⟩)
      | .ok _ => none

/-- Whether all directories among stops can be listed, and no Rust file among them is at fault. -/
structure Passable (files : FileSystem) (root : FilePath) (stops : List (List String × Node.Face)) : Prop where
  listable : ∀ path ∈ FileSystem.directoryPaths root stops, files.Listable path
  faultless : ∀ path ∈ FileSystem.filePaths root stops, isRustFile path = true → fault? files path = none

theorem faultAt?_directory_eq_none_iff {files : FileSystem} {names : List String} :
    faultAt? files root (names, .directory) = none ↔ files.Listable (root.below names) := by
  cases listed : files.list (root.below names) <;> simp [faultAt?, FileSystem.Listable, listed]

theorem faultAt?_file_eq_none_iff {files : FileSystem} {names : List String} {content : ByteArray} :
    faultAt? files root (names, .file content) = none ↔
      (isRustFile (root.below names) = true → fault? files (root.below names) = none) := by
  unfold faultAt?
  split <;> simp_all

theorem passable_iff {files : FileSystem} {stops : List (List String × Node.Face)} :
    Passable files root stops ↔ ∀ stop ∈ stops, faultAt? files root stop = none := by
  constructor
  · rintro ⟨listable, faultless⟩ ⟨names, face⟩ member
    cases face with
    | file content =>
        exact faultAt?_file_eq_none_iff.mpr (faultless _ (FileSystem.mem_filePaths_iff.mpr ⟨names, content, member, rfl⟩))
    | link target => rfl
    | directory =>
        exact faultAt?_directory_eq_none_iff.mpr (listable _ (FileSystem.mem_directoryPaths_iff.mpr ⟨names, member, rfl⟩))
  · intro passed
    constructor
    · intro path member
      obtain ⟨names, isStop, rfl⟩ := FileSystem.mem_directoryPaths_iff.mp member
      exact faultAt?_directory_eq_none_iff.mp (passed _ isStop)
    · intro path member
      obtain ⟨names, content, isStop, rfl⟩ := FileSystem.mem_filePaths_iff.mp member
      exact faultAt?_file_eq_none_iff.mp (passed _ isStop)

/-- A walk ends at the first directory that cannot be listed, and no file behind it is loaded: so it is the first fault on the
way that counts. -/
theorem findSome?_along (files : FileSystem) (root : FilePath) (stops : List (List String × Node.Face)) :
    (((files.along root stops).files.filter isRustFile).findSome? (fault? files)).or
      ((files.along root stops).error.map .unwalkable) = stops.findSome? (faultAt? files root) := by
  induction stops with
  | nil => rfl
  | cons stop stops ih =>
      obtain ⟨names, face⟩ := stop
      cases face with
      | link target => exact ih
      | file content =>
          rw [List.findSome?_cons, faultAt?, ← ih, FileSystem.along, List.filter_cons]
          cases isRustFile (root.below names) with
          | false => rfl
          | true =>
              simp only [if_true, List.findSome?_cons]
              cases fault? files (root.below names) <;> rfl
      | directory =>
          rw [List.findSome?_cons, faultAt?, ← ih, FileSystem.along]
          cases files.list (root.below names) <;> rfl

/-- Loading a tree fails if there is no directory, or for the first fault of what stands below it. Either way no file is
changed unless the log is one. -/
theorem ofDirectory_faults (elsewhere : work.LogsElsewhere) (root : FilePath) :
    (ofDirectory work root).1.files = work.files ∧
      if work.files.isDirectory root then
        match (work.files.stopsBelow root).findSome? (faultAt? work.files root) with
        | some reason => (ofDirectory work root).2 = .error reason
        | none => ∃ source, (ofDirectory work root).2 = .ok source
      else (ofDirectory work root).2 = .error (.notDirectory root) := by
  unfold ofDirectory addDirectory
  cases isDirectory : work.files.isDirectory root with
  | false => exact ⟨rfl, rfl⟩
  | true =>
      obtain ⟨error, files⟩ := addFiles_faults empty elsewhere root (rustFiles work.files root)
      have first : (addFiles root (rustFiles work.files root) empty work).error.or
          ((work.files.walk root).error.map .unwalkable) = (work.files.stopsBelow root).findSome? (faultAt? work.files root) := by
        rw [error, rustFiles, FileSystem.walk, findSome?_along]
      simp only [if_true]
      rw [first]
      cases (work.files.stopsBelow root).findSome? (faultAt? work.files root) with
      | some reason => exact ⟨files, rfl⟩
      | none => exact ⟨files, _, rfl⟩

/-- A tree can be loaded if its walk comes to its end and no Rust file is at fault. -/
theorem exists_of_faultless (elsewhere : work.LogsElsewhere) (isDirectory : work.files.isDirectory root = true)
    (walked : (work.files.walk root).error = none)
    (faultless : ∀ path ∈ rustFiles work.files root, fault? work.files path = none) :
    ∃ source, (ofDirectory work root).2 = .ok source := by
  have outcome := (ofDirectory_faults elsewhere root).2
  have none : (work.files.stopsBelow root).findSome? (faultAt? work.files root) = none := by
    rw [← findSome?_along]
    exact Option.or_eq_none_iff.mpr ⟨List.findSome?_eq_none_iff.mpr faultless, by
      rw [← FileSystem.walk, walked]
      rfl⟩
  rwa [if_pos isDirectory, none] at outcome

end Source

namespace Workspace.LogsElsewhere

variable {work : Workspace}

theorem addFiles (elsewhere : work.LogsElsewhere) (root : FilePath) (paths : List FilePath) (source : Source) :
    (Source.addFiles root paths source work).work.LogsElsewhere := by
  induction paths generalizing source work with
  | nil => exact elsewhere
  | cons path others ih =>
      unfold Source.addFiles
      split
      · exact elsewhere
      · rename_i next events added
        exact ih (elsewhere.logAll events).1 next

theorem ofDirectory (elsewhere : work.LogsElsewhere) (root : FilePath) :
    (Source.ofDirectory work root).1.LogsElsewhere := by
  have behind := elsewhere.addFiles root (Source.rustFiles work.files root) .empty
  unfold Source.ofDirectory Source.addDirectory
  cases work.files.isDirectory root with
  | false => exact elsewhere
  | true =>
      simp only [if_true]
      split <;> exact behind

end Workspace.LogsElsewhere

end Companion
