import Companion.Proofs.Namespace.OfFile
import Companion.Proofs.FileSystem.Walk
import Companion.Proofs.Source.Findings

/-!
Where the classes of a loaded tree come from. Each stands in a Rust file below the source root; its namespace leads
through the directories of that file, then through the part of the file name that is in front of the extension, and then
through modules of the file.
-/

set_option autoImplicit false

namespace Companion

open Companion.Syntax (IsIdentifier)

theorem Syntax.IsIdentifier.isName {name : String} (isIdentifier : IsIdentifier name) : IsName name := by
  have noDot : '.' ∉ name.toList := isIdentifier.not_mem (by decide)
  exact ⟨isIdentifier.ne_empty, by rintro rfl; simp at noDot, by rintro rfl; simp at noDot,
    isIdentifier.not_mem (by decide), isIdentifier.not_mem (by decide)⟩

/-- The names of Rust files whose part in front of the extension stands for a directory, and not for an entry of it. -/
def dotFiles : List String := ["..rs", "...rs"]

theorem mem_dotFiles_iff {stem : String} : stem ++ ".rs" ∈ dotFiles ↔ stem = "." ∨ stem = ".." := by
  have current : stem ++ ".rs" = "." ++ ".rs" ↔ stem = "." := String.append_left_inj ".rs"
  have parent : stem ++ ".rs" = ".." ++ ".rs" ↔ stem = ".." := String.append_left_inj ".rs"
  have names : dotFiles = ["." ++ ".rs", ".." ++ ".rs"] := rfl
  simp only [names, List.mem_cons, List.not_mem_nil, or_false, current, parent]

theorem isStep_stem {stem : String} (isName : IsName (stem ++ ".rs")) (nonempty : stem ≠ "") : IsStep stem :=
  ⟨nonempty, fun inside => isName.slash (by simp [inside])⟩

/-- What the name of a Rust file adds to a namespace is a name, unless it means another directory. -/
theorem areNames_stemSegment_iff {stem : String} (isName : IsName (stem ++ ".rs")) (nonempty : stem ≠ "") :
    (∀ segment ∈ Namespace.stemSegment stem, IsName segment) ↔ stem ++ ".rs" ∉ dotFiles := by
  rw [mem_dotFiles_iff, not_or]
  constructor
  · intro areNames
    constructor <;> rintro rfl <;> revert areNames <;> decide
  · rintro ⟨notCurrent, notParent⟩ segment member
    rw [mem_stemSegment member]
    exact ⟨nonempty, notCurrent, notParent, (isStep_stem isName nonempty).slash,
      fun inside => isName.null (by simp [inside])⟩

/-- Below a directory the Rust files are those whose name has something in front of the extension. -/
theorem Source.isRustFile_below_iff {root : FilePath} {names : List String} (areEntries : ∀ name ∈ names, IsEntry name)
    (someNames : names ≠ []) :
    isRustFile (root.below names) = true ↔ ∃ directories stem, stem ≠ "" ∧ names = directories ++ [stem ++ ".rs"] := by
  have isSplit : isRustFile (root.below names) = true ↔ (FilePath.splitName (names.getLast someNames)).2 = some "rs" := by
    rw [isRustFile, beq_iff_eq, FilePath.extension?, FilePath.fileName?_below root areEntries someNames,
      List.getLast?_eq_some_getLast someNames, Option.bind_some]
  have ending : ".rs" = "." ++ "rs" := by decide
  rw [isSplit]
  constructor
  · intro split
    obtain ⟨whole, someStem⟩ := FilePath.splitName_spec split
    refine ⟨names.dropLast, _, someStem, ?_⟩
    rw [ending, ← whole, List.dropLast_concat_getLast]
  · rintro ⟨directories, stem, someStem, rfl⟩
    rw [List.getLast_concat, ending, FilePath.splitName_append someStem (by decide)]

/-- The name of a Rust file is divided in front of its extension, and so is its namespace. -/
theorem exists_stem {root : FilePath} {names : List String} (someNames : names ≠ [])
    (areNames : ∀ name ∈ names, IsName name) (isRustFile : Source.isRustFile (root.below names) = true) :
    ∃ directories stem, names = directories ++ [stem ++ ".rs"] ∧ stem ≠ "" ∧
      (Namespace.ofFile root (root.below names)).segments = directories ++ Namespace.stemSegment stem := by
  have areEntries := areEntries_of_areNames areNames
  obtain ⟨directories, stem, someStem, rfl⟩ := (Source.isRustFile_below_iff areEntries someNames).mp isRustFile
  have inDirectories : ∀ name ∈ directories, IsEntry name := fun name member =>
    areEntries name (List.mem_append_left _ member)
  have isName : IsName (stem ++ ".rs") := areNames _ (by simp)
  exact ⟨directories, stem, rfl, someStem, Namespace.segments_ofFile root inDirectories (isStep_stem isName someStem)⟩

/-- A class that was loaded from a Rust file below a source root, in some directories and under some name. -/
structure Declaration.LoadedFrom (root : FilePath) (directories : List String) (stem : String)
    (declaration : Declaration) : Prop where
  someRoot : root.text ≠ ""
  areNames : ∀ name ∈ directories ++ [stem ++ ".rs"], IsName name
  someStem : stem ≠ ""
  location : ∃ place, declaration.location =
    Index.locationIn (some (root.below (directories ++ [stem ++ ".rs"]))) place
  name : IsIdentifier declaration.name
  modules : ∃ modules, (∀ name ∈ modules, IsIdentifier name) ∧
    declaration.space.segments = directories ++ Namespace.stemSegment stem ++ modules

namespace Source

variable {source after : Source}

/-- Whether all classes of a source were loaded from files below a source root. -/
def LoadedBelow (root : FilePath) (source : Source) : Prop :=
  ∀ entry ∈ source.entries, entry.declaration.kind = .classLike →
    ∃ directories stem, entry.declaration.LoadedFrom root directories stem

theorem loadedBelow_empty (root : FilePath) : LoadedBelow root empty := by
  simp [LoadedBelow, empty]

theorem LoadedBelow.addFile {root : FilePath} {files : FileSystem} {names : List String} {events : List Log.Event}
    (loaded : source.LoadedBelow root) (nonempty : root.text ≠ "") (someNames : names ≠ [])
    (areNames : ∀ name ∈ names, IsName name) (isRustFile : isRustFile (root.below names) = true)
    (added : source.addFile files (root.below names) (.ofFile root (root.below names)) = .ok (after, events)) :
    after.LoadedBelow root := by
  obtain ⟨directories, stem, rfl, someStem, segments⟩ := exists_stem someNames areNames isRustFile
  obtain ⟨text, items, -, read, rfl⟩ := exists_items_of_addFile added
  intro entry member isClass
  obtain earlier | ⟨id, found, isFound, rfl⟩ := mem_entries_addAll member
  · exact loaded entry earlier isClass
  · have here := Index.standsIn_of_mem_itemsFindings (Syntax.allWorded_readFile read) isClass isFound
    refine ⟨directories, stem, nonempty, areNames, someStem, here.location, here.name, ?_⟩
    rw [← segments]
    exact here.modules

/-- Files that are added one behind another keep that all classes were loaded from below the source root. -/
theorem LoadedBelow.addFiles {root : FilePath} {paths : List FilePath} (loaded : source.LoadedBelow root)
    (nonempty : root.text ≠ "") (below : ∀ path ∈ paths, isRustFile path = true ∧
      ∃ names, names ≠ [] ∧ (∀ name ∈ names, IsName name) ∧ path = root.below names) (work : Workspace) :
    (Source.addFiles root paths source work).source.LoadedBelow root := by
  induction paths generalizing source work with
  | nil => exact loaded
  | cons path others ih =>
      have othersBelow := fun other (member : other ∈ others) => below other (List.mem_cons_of_mem _ member)
      obtain ⟨isRustFile, names, someNames, areNames, rfl⟩ := below path (by simp)
      unfold Source.addFiles
      split
      · exact loaded
      · rename_i added
        exact ih (loaded.addFile nonempty someNames areNames isRustFile added) othersBelow _

theorem text_ne_empty_of_isDirectory {files : FileSystem} {root : FilePath} (isDirectory : files.isDirectory root = true) :
    root.text ≠ "" := by
  intro empty
  simp [FileSystem.isDirectory, FileSystem.resolve, empty] at isDirectory

/-- All classes of a loaded tree were loaded from files below its root. -/
theorem loadedBelow_of_ofDirectory {work : Workspace} {root : FilePath} (named : work.files.NamesBelow root)
    (loaded : (ofDirectory work root).2 = .ok source) : source.LoadedBelow root := by
  unfold ofDirectory addDirectory at loaded
  by_cases isDirectory : work.files.isDirectory root = true
  · have below : ∀ path ∈ rustFiles work.files root, isRustFile path = true ∧
        ∃ names, names ≠ [] ∧ (∀ name ∈ names, IsName name) ∧ path = root.below names := fun path member =>
      have ⟨walked, isRustFile⟩ := List.mem_filter.mp member
      ⟨isRustFile, FileSystem.exists_names_of_mem_filesBelow isDirectory named (FileSystem.files_walk_subset walked)⟩
    have all := (loadedBelow_empty root).addFiles (text_ne_empty_of_isDirectory isDirectory) below work
    simp only [isDirectory, if_true] at loaded
    split at loaded
    · contradiction
    · cases loaded
      exact all
  · simp [isDirectory] at loaded

end Source

end Companion
