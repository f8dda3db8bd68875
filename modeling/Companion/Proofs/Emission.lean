import Companion.Emission
import Companion.Proofs.FileSystem.Change

set_option autoImplicit false

namespace Companion

namespace CompanionType

def fileName (type : CompanionType) (extension : String) : String :=
  type.name ++ "." ++ extension

/-- A companion stands below the output root: in the directories of its namespace, under its own name. -/
theorem outputPath_eq (type : CompanionType) {root : FilePath} {extension : String}
    (areSteps : ∀ segment ∈ type.space.segments, IsStep segment)
    (relative : (FilePath.mk (type.fileName extension)).isAbsolute = false) :
    type.outputPath root extension = root.below (type.space.segments ++ [type.fileName extension]) := by
  unfold outputPath Namespace.under Namespace.toPath fileName at *
  cases segments : type.space.segments with
  | nil => exact root.join_empty_join relative
  | cons segment others =>
      rw [segments] at areSteps
      have isStep := areSteps segment (by simp)
      have start : FilePath.empty.join segment = ⟨segment⟩ := by
        simp [FilePath.join, FilePath.isAbsolute_of_slashFree isStep.slash, FilePath.empty]
      rw [List.foldl_cons, start]
      have joined := root.join_below ⟨segment⟩ isStep.ne_empty (FilePath.isAbsolute_of_slashFree isStep.slash)
        (fun other member => areSteps other (List.mem_cons_of_mem _ member))
      rw [FilePath.below] at joined
      rw [joined, FilePath.below_append]
      rfl

variable {type : CompanionType} {root : FilePath}

theorem outputPath_eq_join (type : CompanionType) (root : FilePath) (extension : String) :
    type.outputPath root extension = (type.space.under root).join (type.fileName extension) := rfl

/-- The path of a companion leads through its directory, and ends in the name of its file. -/
theorem steps_outputPath {extension : String} (isEntry : IsEntry (type.fileName extension)) :
    FileSystem.stepsOf (type.outputPath root extension).text =
      FileSystem.stepsOf (type.space.under root).text ++ [type.fileName extension] := by
  rw [outputPath_eq_join, FilePath.steps_join _ (FilePath.isAbsolute_of_slashFree isEntry.slash),
    FilePath.steps_of_isStep isEntry.toIsStep]

theorem isAbsolute_outputPath {extension : String} (isEntry : IsEntry (type.fileName extension)) :
    (type.outputPath root extension).isAbsolute = (type.space.under root).isAbsolute :=
  FilePath.isAbsolute_join _ (FilePath.isAbsolute_of_slashFree isEntry.slash)

theorem asksForDirectory_outputPath {extension : String} (isEntry : IsEntry (type.fileName extension)) :
    FileSystem.asksForDirectory (type.outputPath root extension).text = false :=
  FilePath.asksForDirectory_join _ isEntry.toIsStep

variable {files : FileSystem}

/-- Preparing the directory of a companion makes no other directories than those that lead to it. -/
theorem prepareDirectory_changes (root : FilePath) {extension : String} (isEntry : IsEntry (type.fileName extension))
    (linkFree : files.LinkFree) :
    FileSystem.Changes (files.Passed (type.space.under root)) FileSystem.Nowhere files
      (prepareDirectory files (type.outputPath root extension)).1 := by
  unfold prepareDirectory
  split
  · exact .refl files
  · rename_i directory isParent
    have made := FileSystem.makeDirectoriesWithin_changes (directory.components.length + 1) directory linkFree
    obtain ⟨steps, absolute⟩ := FilePath.steps_parent isParent
    rw [steps_outputPath isEntry, List.dropLast_concat] at steps
    rw [isAbsolute_outputPath isEntry] at absolute
    have lead := made.mono (fun _ passed => passed.along rfl steps absolute) fun _ never => never
    unfold FileSystem.makeDirectories
    split <;> rename_i same <;> rw [same] at lead <;> exact lead

variable {language : Language}

theorem emit_of_unprepared {middle : FileSystem} {reason : GenerateError}
    (failed : prepareDirectory files (type.outputPath root language.extension) = (middle, .error reason)) :
    type.emit language root files = (middle, .error reason) := by
  unfold emit
  simp only [failed]

theorem emit_of_unwritten {middle : FileSystem} {cause : OsError}
    (prepared : prepareDirectory files (type.outputPath root language.extension) = (middle, .ok ()))
    (failed : middle.write (type.outputPath root language.extension) (type.render language) = .error cause) :
    type.emit language root files =
      (middle, .error (.write (type.outputPath root language.extension) cause)) := by
  unfold emit
  simp only [prepared, failed]

theorem emit_of_written {middle after : FileSystem}
    (prepared : prepareDirectory files (type.outputPath root language.extension) = (middle, .ok ()))
    (wrote : middle.write (type.outputPath root language.extension) (type.render language) = .ok after) :
    type.emit language root files = (after, .ok (type.outputPath root language.extension)) := by
  unfold emit
  simp only [prepared, wrote]

/-- Writing a companion changes no file but its own, and none if it fails; the directories that it makes lead to that
file. If it succeeds, the path leads to the text of the companion. -/
theorem emit_changes (root : FilePath) (isEntry : IsEntry (type.fileName language.extension))
    (linkFree : files.LinkFree) :
    FileSystem.Changes (files.Passed (type.space.under root))
        (fun names => (∃ path, (type.emit language root files).2 = .ok path) ∧
          names = files.placeOf (type.outputPath root language.extension)) files (type.emit language root files).1 ∧
      ((∃ path, (type.emit language root files).2 = .ok path) →
        (type.emit language root files).1.Holds (type.outputPath root language.extension)
          (type.render language).toUTF8) := by
  have made := prepareDirectory_changes root isEntry linkFree
  rcases prepared : prepareDirectory files (type.outputPath root language.extension) with ⟨middle, reason | done⟩
  · rw [prepared] at made
    rw [emit_of_unprepared prepared]
    exact ⟨made.mono (fun _ passed => passed) fun _ never => never.elim, fun ⟨_, never⟩ => by contradiction⟩
  · rw [prepared] at made
    cases wrote : middle.write (type.outputPath root language.extension) (type.render language) with
    | error cause =>
        rw [emit_of_unwritten prepared wrote]
        exact ⟨made.mono (fun _ passed => passed) fun _ never => never.elim, fun ⟨_, never⟩ => by contradiction⟩
    | ok after =>
        rw [emit_of_written prepared wrote]
        obtain ⟨changes, holds⟩ := FileSystem.write_changes (made.linkFree linkFree) wrote
        refine ⟨(made.mono (fun _ passed => passed) fun _ never => never.elim).trans
          (changes.mono (fun _ never => never.elim) ?_), fun _ => holds⟩
        rintro names rfl
        refine ⟨⟨_, rfl⟩, ?_⟩
        rw [FileSystem.placeOf_congr made.working]

end CompanionType

end Companion
