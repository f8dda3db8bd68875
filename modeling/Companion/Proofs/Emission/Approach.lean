import Companion.Proofs.Emission.Repetition
import Companion.Proofs.FileSystem.Approach

/-!
Writing companions below a place that was free. It comes to the same in the whole tree and in the tree that has nothing
but the place, path for path.
-/

set_option autoImplicit false

namespace Companion

open FileSystem (Approach Plot stepsOf)

def GenerateError.relocate (path : FilePath) : GenerateError → GenerateError
  | createDirectory _ cause => createDirectory (path.parent?.getD path) cause
  | write _ cause => write path cause

def CompanionType.relocate (path : FilePath) : Except GenerateError FilePath → Except GenerateError FilePath
  | .ok _ => .ok path
  | .error error => .error (error.relocate path)

namespace FileSystem.Plot.Behind

variable {plot : Plot} {base : String}

theorem join (behind : plot.Behind base) {below : String} (nonempty : base ≠ "")
    (relative : (FilePath.mk below).isAbsolute = false) (forward : ".." ∉ stepsOf below) :
    plot.Behind ((FilePath.mk base).join below).text := by
  obtain ⟨pieces, whole, notBack⟩ := behind
  have further : ".." ∉ (FilePath.mk below).pieces := fun back =>
    forward (List.mem_filter.mpr ⟨back, by decide⟩)
  obtain ⟨empty, -⟩ | ⟨front, text, joined⟩ | ⟨-, joined⟩ := (FilePath.mk base).join_cases relative
  · exact absurd empty nonempty
  · have frontPieces : (FilePath.mk front).pieces ++ [""] = plot.name :: pieces := by
      have empty : (FilePath.mk "").pieces = [""] := FilePath.pieces_of_slashFree (by decide)
      rw [← whole, ← empty, ← FilePath.pieces_append_slash]
      exact congrArg (fun text => (FilePath.mk text).pieces) text.symm
    rw [joined]
    cases inner : (FilePath.mk front).pieces with
    | nil => exact absurd inner (FilePath.pieces_ne_nil _)
    | cons first rest =>
        rw [inner, List.cons_append] at frontPieces
        obtain ⟨rfl, rfl⟩ := List.cons.inj frontPieces
        refine ⟨rest ++ (FilePath.mk below).pieces, by rw [FilePath.pieces_append_slash, inner, List.cons_append], ?_⟩
        intro back
        obtain inRest | inBelow := List.mem_append.mp back
        · exact notBack (List.mem_append_left _ inRest)
        · exact further inBelow
  · rw [joined]
    refine ⟨pieces ++ (FilePath.mk below).pieces, by rw [FilePath.pieces_append_slash, whole, List.cons_append], ?_⟩
    intro back
    obtain inFront | inBelow := List.mem_append.mp back
    · exact notBack inFront
    · exact further inBelow

end FileSystem.Plot.Behind

namespace CompanionType

variable {plot : Plot} {lead slashes base : String} {sub : Option Node} {type : CompanionType} {language : Language}

section Paths

variable (slashFree : ∀ segment ∈ type.space.segments, '/' ∉ segment.toList)
  (isEntry : IsEntry (type.fileName language.extension)) (nonempty : base ≠ "")

include slashFree

theorem relative_toPath : (FilePath.mk type.space.toPath.text).isAbsolute = false ∧
    stepsOf type.space.toPath.text = type.space.segments.filter (· ≠ "") := by
  obtain ⟨absolute, steps⟩ := FilePath.empty.below_of_slashFree slashFree
  have further : stepsOf type.space.toPath.text = [] ++ type.space.segments.filter (· ≠ "") := steps
  exact ⟨absolute, by rw [further, List.nil_append]⟩

include isEntry nonempty

theorem outputPath_lead (front : String) : type.outputPath ⟨front ++ base⟩ language.extension =
    ⟨front ++ (type.outputPath ⟨base⟩ language.extension).text⟩ := by
  have relative := (relative_toPath slashFree).1
  have some : ((FilePath.mk base).join type.space.toPath.text).text ≠ "" := by
    rw [FilePath.join_eq _ relative]
    simp [nonempty]
  rw [outputPath_eq_join, outputPath_eq_join]
  unfold Namespace.under
  rw [FilePath.join_lead front nonempty relative,
    FilePath.join_lead front some (FilePath.isAbsolute_of_slashFree isEntry.slash)]

theorem behind_outputPath (behind : plot.Behind base) (forward : ".." ∉ type.space.segments) :
    plot.Behind (type.outputPath ⟨base⟩ language.extension).text := by
  obtain ⟨relative, steps⟩ := relative_toPath slashFree
  have some : ((FilePath.mk base).join type.space.toPath.text).text ≠ "" := by
    rw [FilePath.join_eq _ relative]
    simp [nonempty]
  have first := behind.join nonempty relative (by rw [steps]; exact fun back => forward (List.mem_filter.mp back).1)
  refine first.join some (FilePath.isAbsolute_of_slashFree isEntry.slash) ?_
  rw [← fileName, FilePath.steps_of_isStep isEntry.toIsStep]
  simpa using Ne.symm isEntry.ne_parent

end Paths

/-- Writing a companion comes to the same in the whole tree and in the tree apart. -/
theorem emit_grown (approach : Approach plot lead slashes) (behind : plot.Behind base)
    (linkFree : (plot.apart sub).LinkFree) (slashFree : ∀ segment ∈ type.space.segments, '/' ∉ segment.toList)
    (forward : ".." ∉ type.space.segments) (isEntry : IsEntry (type.fileName language.extension)) :
    ∃ after, (type.emit language ⟨lead ++ base⟩ (plot.grown sub)).1 = plot.grown after ∧
      (type.emit language ⟨slashes ++ base⟩ (plot.apart sub)).1 = plot.apart after ∧
      (type.emit language ⟨lead ++ base⟩ (plot.grown sub)).2 =
        relocate (type.outputPath ⟨lead ++ base⟩ language.extension)
          (type.emit language ⟨slashes ++ base⟩ (plot.apart sub)).2 := by
  have nonempty := approach.nonempty behind
  have pathBehind := behind_outputPath slashFree isEntry nonempty behind forward
  have noSlash : FileSystem.asksForDirectory (type.outputPath ⟨base⟩ language.extension).text = false :=
    asksForDirectory_outputPath isEntry
  obtain ⟨directory, houses⟩ := exists_houses ⟨base⟩ isEntry
  have isParent := houses.isParent
  have someDirectory : directory.text ≠ "" := by
    obtain ⟨rest, steps, -⟩ := approach.exists_steps behind
    obtain ⟨dots, stay, split⟩ := houses.steps
    intro empty
    rw [(under_of_slashFree slashFree ⟨base⟩).2, steps, empty, FilePath.steps_empty, List.nil_append] at split
    exact approach.isEntry.ne_current (stay plot.name (by rw [← split]; simp))
  have grownPath := outputPath_lead slashFree isEntry nonempty lead
  have apartPath := outputPath_lead slashFree isEntry nonempty slashes
  generalize type.outputPath ⟨base⟩ language.extension = path at pathBehind noSlash isParent grownPath apartPath
  obtain ⟨pieces, whole, notBack⟩ := id pathBehind
  have counts : FilePath.isIdle plot.name = false := approach.isIdle_name
  obtain ⟨grownParent, kept, isFront, parentPieces⟩ :=
    FilePath.parent?_lead approach.isLead whole counts isParent someDirectory
  obtain ⟨apartParent, -⟩ := FilePath.parent?_lead approach.slashesLead whole counts isParent someDirectory
  have directoryBehind : plot.Behind directory.text := ⟨kept, parentPieces, fun back => notBack (isFront.subset back)⟩
  obtain ⟨after, grown, apart, same⟩ := approach.makeDirectories directoryBehind linkFree houses.trimmed
  have linkFreeAfter : ((plot.apart sub).makeDirectories ⟨slashes ++ directory.text⟩).1.LinkFree :=
    (FileSystem.makeDirectoriesWithin_changes _ _ linkFree).linkFree linkFree
  unfold emit prepareDirectory
  rw [grownPath, apartPath]
  dsimp only
  rw [grownParent, apartParent]
  dsimp only
  generalize (plot.grown sub).makeDirectories ⟨lead ++ directory.text⟩ = madeGrown at grown same ⊢
  generalize (plot.apart sub).makeDirectories ⟨slashes ++ directory.text⟩ = madeApart at apart same linkFreeAfter ⊢
  obtain ⟨grownMade, outcome⟩ := madeGrown
  obtain ⟨apartMade, outcomeApart⟩ := madeApart
  obtain rfl : grownMade = plot.grown after := grown
  obtain rfl : apartMade = plot.apart after := apart
  obtain rfl : outcome = outcomeApart := same
  cases outcome with
  | error reason => exact ⟨after, rfl, rfl, by simp [relocate, GenerateError.relocate, grownParent]⟩
  | ok done =>
      dsimp only
      obtain ⟨reason, grownWrote, apartWrote⟩ | ⟨last, grownWrote, apartWrote⟩ :=
        approach.write_cases pathBehind linkFreeAfter noSlash (type.render language)
      · rw [grownWrote, apartWrote]
        exact ⟨after, rfl, rfl, rfl⟩
      · rw [grownWrote, apartWrote]
        exact ⟨some last, rfl, rfl, rfl⟩

end CompanionType

end Companion
