import Companion.Namespace.OfFile
import Companion.Proofs.FilePath.Components
import Companion.Proofs.Namespace.Dotted

/-!
The namespaces of Rust files below a source root. Each leads through the directories of the file and then to the name of the
file, unless that stands for its directory; so two files have one namespace only if they stand for the same directory, be it
from within or from beside it.
-/

set_option autoImplicit false

namespace Companion

/-- A Rust file below a source root: the directories that lead to it, and what stands in front of its extension. -/
structure RustFile where
  directories : List String
  stem : String
  areEntries : ∀ name ∈ directories, IsEntry name
  isStep : IsStep stem

namespace RustFile

def names (file : RustFile) : List String :=
  file.directories ++ [file.stem ++ ".rs"]

def path (file : RustFile) (root : FilePath) : FilePath :=
  root.below file.names

def StandsWithin (file : RustFile) : Prop :=
  file.stem = "lib" ∨ file.stem = "main" ∨ file.stem = "mod"

instance (file : RustFile) : Decidable file.StandsWithin :=
  inferInstanceAs (Decidable (file.stem = "lib" ∨ file.stem = "main" ∨ file.stem = "mod"))

/-- Whether the file stands beside a directory of its name, for which another one stands within. -/
structure StandsBeside (file other : RustFile) : Prop where
  outside : ¬ file.StandsWithin
  inside : other.StandsWithin
  directory : other.directories = file.directories ++ [file.stem]

def segments (file : RustFile) : List String :=
  if file.StandsWithin then file.directories else file.directories ++ [file.stem]

theorem not_standsBeside {file other : RustFile} (within : file.StandsWithin) : ¬ file.StandsBeside other :=
  fun beside => beside.outside within

theorem not_standsBeside_of_outside {file other : RustFile} (outside : ¬ other.StandsWithin) : ¬ file.StandsBeside other :=
  fun beside => outside beside.inside

theorem standsBeside_iff {file other : RustFile} (outside : ¬ file.StandsWithin) (inside : other.StandsWithin) :
    file.StandsBeside other ↔ file.segments = other.segments := by
  rw [segments, segments, if_neg outside, if_pos inside]
  exact ⟨fun beside => beside.directory.symm, fun same => ⟨outside, inside, same.symm⟩⟩

/-- Different files lead to the same segments only if both stand for one directory. -/
theorem segments_eq_iff {file other : RustFile} (differ : file.names ≠ other.names) :
    file.segments = other.segments ↔
      (file.StandsWithin ∧ other.StandsWithin ∧ file.directories = other.directories) ∨
        file.StandsBeside other ∨ other.StandsBeside file := by
  by_cases within : file.StandsWithin <;> by_cases otherWithin : other.StandsWithin
  · simp [segments, within, otherWithin, not_standsBeside within, not_standsBeside otherWithin]
  · simp [otherWithin, not_standsBeside within, standsBeside_iff otherWithin within, eq_comm]
  · simp [within, not_standsBeside otherWithin, standsBeside_iff within otherWithin]
  · have apart : file.segments ≠ other.segments := fun same => by
      rw [segments, segments, if_neg within, if_neg otherWithin] at same
      obtain ⟨directories, stems⟩ := List.append_singleton_inj.mp same
      exact differ (by rw [names, names, directories, stems])
    simp [within, apart, not_standsBeside_of_outside within, not_standsBeside_of_outside otherWithin]

end RustFile

/-- The name of a Rust file is that of an entry, whatever stands in front of its extension. -/
theorem isEntry_rustName {stem : String} (isStep : IsStep stem) : IsEntry (stem ++ ".rs") := by
  have last : ∀ name : String, stem ++ ".rs" = name → name.toList.getLast? = some 's' := fun name same => by
    simp [← same]
  refine ⟨⟨by simp, by simpa using isStep.slash⟩, fun same => ?_, fun same => ?_⟩ <;>
    · have ends := last _ same
      revert ends
      decide

theorem mem_stemSegment {stem segment : String} (member : segment ∈ Namespace.stemSegment stem) : segment = stem := by
  unfold Namespace.stemSegment at member
  split at member
  · contradiction
  · exact List.mem_singleton.mp member

namespace Namespace

/-- The namespace of a Rust file leads through its directories, however the source root is spelled. -/
theorem segments_ofFile (root : FilePath) {directories : List String} {stem : String}
    (areEntries : ∀ name ∈ directories, IsEntry name) (isStep : IsStep stem) :
    (ofFile root (root.below (directories ++ [stem ++ ".rs"]))).segments = directories ++ stemSegment stem := by
  have allEntries : ∀ name ∈ directories ++ [stem ++ ".rs"], IsEntry name :=
    List.forall_mem_append.mpr ⟨areEntries, List.forall_mem_singleton.mpr (isEntry_rustName isStep)⟩
  have extension : ".rs" = "." ++ "rs" := by decide
  have split : FilePath.splitName (stem ++ ".rs") = (stem, some "rs") := by
    rw [extension]
    exact FilePath.splitName_append isStep.ne_empty (by decide)
  have names : (directories.map FilePath.Component.name).filterMap FilePath.Component.name? = directories := by
    rw [List.filterMap_map]
    exact List.filterMap_some
  have noneEmpty : "" ∉ directories ++ stemSegment stem := fun member => by
    obtain inDirectories | inStem := List.mem_append.mp member
    · exact (areEntries _ inDirectories).ne_empty rfl
    · exact isStep.ne_empty (mem_stemSegment inStem).symm
  unfold ofFile ofComponents
  rw [FilePath.componentsBelow_below root allEntries, List.map_append, List.map_singleton, List.dropLast_concat, names,
    List.getLast?_concat, Option.bind_some]
  simp only [FilePath.Component.name?, split]
  exact segments_ofSegments noneEmpty

theorem segments_ofFile_path (root : FilePath) (file : RustFile) :
    (ofFile root (file.path root)).segments = file.segments := by
  have within : directoryModules.contains file.stem = true ↔ file.StandsWithin := by
    simp [directoryModules, RustFile.StandsWithin]
  rw [RustFile.path, RustFile.names, segments_ofFile root file.areEntries file.isStep, stemSegment, RustFile.segments]
  simp only [within]
  split <;> simp

/-- The namespace of a Rust file is made of the directories below the source root and of the name of the file, which is left
out if it stands for its directory. Two files have one namespace exactly if both stand for their directory and that is the
same, or if one stands beside the directory for which the other one does. -/
theorem ofFile_path_eq_iff (root : FilePath) (file : RustFile) :
    (ofFile root (file.path root)).segments =
        (if file.stem = "lib" ∨ file.stem = "main" ∨ file.stem = "mod" then file.directories
          else file.directories ++ [file.stem]) ∧
      ∀ other : RustFile, file.path root ≠ other.path root →
        (ofFile root (file.path root) = ofFile root (other.path root) ↔
          (file.StandsWithin ∧ other.StandsWithin ∧ file.directories = other.directories) ∨
            file.StandsBeside other ∨ other.StandsBeside file) := by
  refine ⟨segments_ofFile_path root file, fun other differ => ?_⟩
  have names : file.names ≠ other.names := fun same => differ (by rw [RustFile.path, RustFile.path, same])
  rw [Namespace.ext_iff, segments_ofFile_path, segments_ofFile_path, RustFile.segments_eq_iff names]

/-- A file beside the directory of its name, in which another one stands for it, below a root with loose spelling. -/
theorem ofFile_path_eq_iff_beside :
    let beside : RustFile := ⟨["app"], "model.v1", by decide, by decide⟩
    let within : RustFile := ⟨["app", "model.v1"], "mod", by decide, by decide⟩
    beside.path ⟨"./src//."⟩ ≠ within.path ⟨"./src//."⟩ ∧
      ofFile ⟨"./src//."⟩ (beside.path ⟨"./src//."⟩) = ofFile ⟨"./src//."⟩ (within.path ⟨"./src//."⟩) := by
  intro beside within
  have differ : beside.path ⟨"./src//."⟩ ≠ within.path ⟨"./src//."⟩ := by decide
  exact ⟨differ, ((ofFile_path_eq_iff ⟨"./src//."⟩ beside).2 within differ).mpr
    (.inr (.inl ⟨by decide, by decide, rfl⟩))⟩

end Namespace

end Companion
