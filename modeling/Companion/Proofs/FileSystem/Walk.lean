import Companion.FileSystem.Walk
import Companion.Proofs.FilePath
import Companion.Proofs.Text.Lines

set_option autoImplicit false

namespace Companion

namespace Node

mutual

def IsNamed : Node → Prop
  | file _ | link _ => True
  | directory entries => AreNamed entries

/-- Whether several entries, and all entries inside them, have names that entries can have. -/
def AreNamed : List (String × Node) → Prop
  | [] => True
  | (name, node) :: others => IsName name ∧ IsNamed node ∧ AreNamed others

end

mutual

theorem areNames_of_mem_stops {node : Node} (named : node.IsNamed) {names : List String} {face : Face}
    (member : (names, face) ∈ node.stops) : ∀ name ∈ names, IsName name := by
  cases node with
  | file content => simp_all [stops]
  | link target => simp_all [stops]
  | directory entries =>
      obtain ⟨rfl, rfl⟩ | inside : (names = [] ∧ face = .directory) ∨ (names, face) ∈ stopsOf entries := by
        simpa [stops] using member
      · simp
      · exact (areNames_of_mem_stopsOf named inside).2

/-- What stands in a directory is reached by at least one name. -/
theorem areNames_of_mem_stopsOf {entries : List (String × Node)} (named : AreNamed entries) {names : List String}
    {face : Face} (member : (names, face) ∈ stopsOf entries) : names ≠ [] ∧ ∀ name ∈ names, IsName name := by
  match entries with
  | [] => simp [stopsOf] at member
  | (entry, node) :: others =>
      obtain ⟨isName, nodeNamed, othersNamed⟩ := named
      unfold stopsOf at member
      obtain inNode | inOthers := List.mem_append.mp member
      · obtain ⟨⟨inner, _⟩, isInside, same⟩ := List.mem_map.mp inNode
        cases same
        exact ⟨by simp, List.forall_mem_cons.mpr ⟨isName, areNames_of_mem_stops nodeNamed isInside⟩⟩
      · exact areNames_of_mem_stopsOf othersNamed inOthers

end

theorem mem_files_iff {node : Node} {names : List String} {content : ByteArray} :
    (names, content) ∈ node.files ↔ (names, .file content) ∈ node.stops := by
  rw [files, List.mem_filterMap]
  constructor
  · rintro ⟨⟨others, face⟩, member, same⟩
    cases face with
    | file found =>
        cases same
        exact member
    | link target => cases same
    | directory => cases same
  · exact fun member => ⟨_, member, rfl⟩

end Node

namespace FileSystem

variable {files : FileSystem} {root : FilePath}

/-- Whether all entries of the tree below a path have names that entries can have. -/
def NamesBelow (files : FileSystem) (root : FilePath) : Prop :=
  ∀ node, files.nodeAt? root = some node → node.IsNamed

theorem nodeAt?_of_isDirectory (isDirectory : files.isDirectory root = true) :
    ∃ entries, files.nodeAt? root = some (.directory entries) := by
  unfold FileSystem.isDirectory at isDirectory
  unfold nodeAt?
  generalize files.resolve .content root = resolution at isDirectory ⊢
  match resolution, isDirectory with
  | .ok (.taken _ (.directory entries)), _ => exact ⟨entries, rfl⟩

def filePaths (root : FilePath) (stops : List (List String × Node.Face)) : List FilePath :=
  stops.filterMap fun
    | (names, .file _) => some (root.below names)
    | _ => none

def directoryPaths (root : FilePath) (stops : List (List String × Node.Face)) : List FilePath :=
  stops.filterMap fun
    | (names, .directory) => some (root.below names)
    | _ => none

section Stops

variable {stops front back : List (List String × Node.Face)} {path : FilePath}

@[simp] theorem filePaths_append : filePaths root (front ++ back) = filePaths root front ++ filePaths root back :=
  List.filterMap_append

@[simp] theorem directoryPaths_append :
    directoryPaths root (front ++ back) = directoryPaths root front ++ directoryPaths root back :=
  List.filterMap_append

theorem mem_filePaths_iff :
    path ∈ filePaths root stops ↔ ∃ names content, (names, .file content) ∈ stops ∧ path = root.below names := by
  rw [filePaths, List.mem_filterMap]
  constructor
  · rintro ⟨⟨names, face⟩, member, same⟩
    cases face with
    | file content => exact ⟨names, content, member, (Option.some.inj same).symm⟩
    | link target => cases same
    | directory => cases same
  · rintro ⟨names, content, member, rfl⟩
    exact ⟨_, member, rfl⟩

theorem mem_directoryPaths_iff :
    path ∈ directoryPaths root stops ↔ ∃ names, (names, .directory) ∈ stops ∧ path = root.below names := by
  rw [directoryPaths, List.mem_filterMap]
  constructor
  · rintro ⟨⟨names, face⟩, member, same⟩
    cases face with
    | file content => cases same
    | link target => cases same
    | directory => exact ⟨names, member, (Option.some.inj same).symm⟩
  · rintro ⟨names, member, rfl⟩
    exact ⟨_, member, rfl⟩

def Listable (files : FileSystem) (path : FilePath) : Prop :=
  ∃ entries, files.list path = .ok entries

theorem not_listable {cause : OsError} (refused : files.list path = .error cause) : ¬ files.Listable path := by
  rintro ⟨entries, listed⟩
  rw [refused] at listed
  contradiction

/-- How a walk goes along stops: to their end, if all directories can be listed, and otherwise up to the first that cannot. -/
inductive Goes (files : FileSystem) (root : FilePath) (stops : List (List String × Node.Face)) : Walk → Prop
  | whole (listable : ∀ path ∈ directoryPaths root stops, files.Listable path) :
      Goes files root stops ⟨filePaths root stops, none⟩
  | barred {front back : List (List String × Node.Face)} {names : List String} {cause : OsError}
      (split : stops = front ++ (names, .directory) :: back)
      (listable : ∀ path ∈ directoryPaths root front, files.Listable path)
      (refused : files.list (root.below names) = .error cause) :
      Goes files root stops ⟨filePaths root front, some ⟨root.below names, cause⟩⟩

theorem Goes.cons {stop : List String × Node.Face} {walk : Walk}
    (listable : ∀ path ∈ directoryPaths root [stop], files.Listable path) (goes : files.Goes root stops walk) :
    files.Goes root (stop :: stops) ⟨filePaths root [stop] ++ walk.files, walk.error⟩ := by
  cases goes with
  | whole others =>
      rw [← filePaths_append]
      refine .whole ?_
      rw [← List.singleton_append, directoryPaths_append]
      exact List.forall_mem_append.mpr ⟨listable, others⟩
  | @barred front back names cause split others refused =>
      rw [← filePaths_append]
      refine .barred (by rw [split, List.append_assoc, List.singleton_append]) ?_ refused
      rw [directoryPaths_append]
      exact List.forall_mem_append.mpr ⟨listable, others⟩

theorem goes_along (files : FileSystem) (root : FilePath) (stops : List (List String × Node.Face)) :
    files.Goes root stops (files.along root stops) := by
  induction stops with
  | nil => exact .whole (by simp [directoryPaths])
  | cons stop stops ih =>
      obtain ⟨names, face⟩ := stop
      cases face with
      | file content => exact ih.cons (by simp [directoryPaths])
      | link target => exact ih.cons (by simp [directoryPaths])
      | directory =>
          unfold along
          cases listed : files.list (root.below names) with
          | error cause => exact .barred (List.nil_append _).symm (by simp [directoryPaths]) listed
          | ok entries => exact ih.cons (List.forall_mem_singleton.mpr ⟨entries, listed⟩)

/-- A walk goes to its end exactly if all directories can be listed. -/
theorem along_error_eq_none_iff :
    (files.along root stops).error = none ↔ ∀ path ∈ directoryPaths root stops, files.Listable path := by
  have goes := files.goes_along root stops
  generalize files.along root stops = walk at goes
  cases goes with
  | whole listable => simpa using listable
  | barred split listable refused =>
      subst split
      simp only [reduceCtorEq, false_iff]
      exact fun all => not_listable refused (all _ (mem_directoryPaths_iff.mpr ⟨_, List.mem_append_cons_self, rfl⟩))

theorem along_files_of_whole (whole : (files.along root stops).error = none) :
    (files.along root stops).files = filePaths root stops := by
  have goes := files.goes_along root stops
  generalize files.along root stops = walk at goes whole
  cases goes with
  | whole listable => rfl
  | barred split listable refused => contradiction

theorem subset_filePaths_along : (files.along root stops).files ⊆ filePaths root stops := by
  have goes := files.goes_along root stops
  generalize files.along root stops = walk at goes
  cases goes with
  | whole listable => exact List.Subset.refl _
  | barred split listable refused =>
      rw [split, filePaths_append]
      exact List.subset_append_left _ _

end Stops

def filesBelow (files : FileSystem) (root : FilePath) : List FilePath :=
  filePaths root (files.stopsBelow root)

def directoriesBelow (files : FileSystem) (root : FilePath) : List FilePath :=
  directoryPaths root (files.stopsBelow root)

theorem files_walk_subset : (files.walk root).files ⊆ files.filesBelow root :=
  subset_filePaths_along

/-- Where all directories can be listed, a walk comes to all regular files. -/
theorem files_walk_of_whole (whole : (files.walk root).error = none) : (files.walk root).files = files.filesBelow root :=
  along_files_of_whole whole

theorem error_walk_eq_none_iff :
    (files.walk root).error = none ↔ ∀ path ∈ files.directoriesBelow root, files.Listable path :=
  along_error_eq_none_iff

theorem exists_file_of_mem_filesBelow (isDirectory : files.isDirectory root = true) {path : FilePath}
    (member : path ∈ files.filesBelow root) : ∃ entries names content, files.nodeAt? root = some (.directory entries) ∧
      (names, .file content) ∈ Node.stopsOf entries ∧ path = root.below names := by
  obtain ⟨entries, isThere⟩ := nodeAt?_of_isDirectory isDirectory
  obtain ⟨names, content, isStop, rfl⟩ := mem_filePaths_iff.mp member
  rw [stopsBelow, isThere] at isStop
  exact ⟨entries, names, content, isThere, by simpa [Node.stops] using isStop, rfl⟩

theorem exists_names_of_mem_filesBelow (isDirectory : files.isDirectory root = true) (named : files.NamesBelow root)
    {path : FilePath} (member : path ∈ files.filesBelow root) :
    ∃ names, names ≠ [] ∧ (∀ name ∈ names, IsName name) ∧ path = root.below names := by
  obtain ⟨entries, names, content, isThere, isFile, rfl⟩ := exists_file_of_mem_filesBelow isDirectory member
  have areNamed : Node.AreNamed entries := named _ isThere
  obtain ⟨nonempty, areNames⟩ := Node.areNames_of_mem_stopsOf areNamed isFile
  exact ⟨names, nonempty, areNames, rfl⟩

/-- Whether the names that lead to files below a path have no line breaks. -/
def LinesBelow (files : FileSystem) (root : FilePath) : Prop :=
  ∀ node, files.nodeAt? root = some node → ∀ found ∈ node.files, ∀ name ∈ found.1, Text.IsOneLine name

end FileSystem

end Companion
