import Companion.Proofs.Emission.Repetition
import Companion.Proofs.FileSystem.Links

set_option autoImplicit false

namespace Companion

open FileSystem (stepsOf)

namespace FileSystem

variable {files : FileSystem} {path root : FilePath} {purpose : Purpose}

/-- Making directories leaves the tree as it is, if neither the path nor a parent that is asked for leads to a free
name. -/
theorem makeDirectoriesWithin_stays {barred : FilePath → Prop}
    (never : ∀ path, barred path → ∀ names, files.resolve .entry path ≠ .ok (.free names))
    (closed : ∀ path parent, barred path → path.parent? = some parent → files.resolve .entry path = .error .noEntry →
      barred parent) (depth : Nat) (isBarred : barred path) : (makeDirectoriesWithin depth path files).1 = files := by
  induction depth generalizing path with
  | zero => rfl
  | succ depth ih =>
      have refused : ∃ reason, files.makeDirectory path = .error reason ∧
          (reason = .noEntry → files.resolve .entry path = .error .noEntry) := by
        unfold makeDirectory
        cases resolved : files.resolve .entry path with
        | error reason => exact ⟨reason, rfl, fun same => by rw [same]⟩
        | ok place =>
            cases place with
            | taken names node => exact ⟨.alreadyExists, rfl, by simp⟩
            | free names => exact absurd resolved (never path isBarred names)
      obtain ⟨reason, refused, missing⟩ := refused
      by_cases empty : path.text = ""
      · rw [makeDirectoriesWithin_empty depth empty]
      by_cases isMissing : reason = .noEntry
      · subst isMissing
        cases isParent : path.parent? with
        | none =>
            unfold makeDirectoriesWithin
            simp only [refused, isParent]
            split <;> rfl
        | some parent =>
            have parents := ih (closed path parent isBarred isParent (missing rfl))
            rw [makeDirectoriesWithin_parent depth empty refused isParent]
            rcases made : makeDirectoriesWithin depth parent files with ⟨after, reason | done⟩
            · rw [made] at parents
              exact parents
            · rw [made] at parents
              obtain rfl : after = files := parents
              simp only [finish, refused]
      · rw [makeDirectoriesWithin_finish depth empty (by rw [refused]; simpa using isMissing), finish, refused]

/-- Whether a directory can be made of a name in a place. -/
structure IsFree (files : FileSystem) (place : List String) (name : String) : Prop where
  isDirectory : files.face? place = some .directory
  notCurrent : name ≠ "."
  notParent : name ≠ ".."
  fits : name.utf8ByteSize ≤ longestName
  missing : files.face? (place ++ [name]) = none

/-- Steps enter a directory up to one that enters none, and that is not the name of a directory to be made. -/
structure Stops (files : FileSystem) (root : FilePath) (front : List String) (step : String) : Prop where
  along : ∃ rest, stepsOf root.text = front ++ step :: rest
  stops : ∃ left place, files.Enters 40 (files.startOf root) front left place ∧
    (¬ ∃ last end_, files.Enters left place [step] last end_) ∧ ¬ files.IsFree place step

namespace Stops

variable {front : List String} {step : String} (stops : files.Stops root front step)

include stops

theorem unresolved (start : files.startOf path = files.startOf root) {others : List String}
    (steps : stepsOf path.text = front ++ step :: others) (behind : others ≠ [])
    (allowed : ¬ (asksForDirectory path.text = true ∧ purpose = .creation)) (place : Place) :
    files.resolve purpose path ≠ .ok place := by
  intro resolved
  obtain ⟨left, middle, enters, stays, -⟩ := stops.stops
  have followed := follow_of_resolve resolved
  rw [start, steps, enters.follow allowed (by simp)] at followed
  rw [← List.singleton_append] at followed
  obtain ⟨last, end_, _, further, -⟩ := enters_of_follow followed (.inl behind)
  exact stays ⟨last, end_, further⟩

theorem not_free (start : files.startOf path = files.startOf root)
    (steps : stepsOf path.text <+: front ∨ front ++ [step] <+: stepsOf path.text) (names : List String) :
    files.resolve .entry path ≠ .ok (.free names) := by
  obtain ⟨left, middle, enters, stays, taken⟩ := stops.stops
  obtain isFront | ⟨others, split⟩ := steps
  · intro resolved
    obtain ⟨_, _, before⟩ := enters.front isFront
    have followed := follow_of_resolve resolved
    rw [start] at followed
    exact before.not_free _ names followed
  · rw [List.append_assoc, List.singleton_append] at split
    cases others with
    | cons next rest => exact stops.unresolved start split.symm (by simp) entry_allowed _
    | nil =>
        intro resolved
        have followed := follow_of_resolve resolved
        rw [start, ← split, enters.follow entry_allowed (by simp)] at followed
        obtain walked | ⟨fewer, _, _, _, -, -, walked, -⟩ := follow_cases followed
        · obtain ⟨isDirectory, -, ends⟩ := takes_of_descend walked
          cases ends with
          | goesOn next walkedOn =>
              unfold descend at walkedOn
              split at walkedOn
              · cases eq_of_arrive walkedOn
              · contradiction
          | free _ notCurrent notParent fits missing => exact taken ⟨isDirectory, notCurrent, notParent, fits, missing⟩
        · obtain ⟨isDirectory, -, ends⟩ := takes_of_descend walked
          cases ends with
          | goesOn next walkedOn =>
              unfold descend at walkedOn
              split at walkedOn
              · cases eq_of_arrive walkedOn
              · contradiction
          | linked target notCurrent notParent fits isLink =>
              rw [descend_link entry_allowed isDirectory notCurrent notParent fits isLink] at walked
              simp at walked

end Stops

variable {front : List String} {step : String}

/-- Whether a path leads along the steps of the root, or on to the step at which they stop. -/
def Bars (files : FileSystem) (root : FilePath) (front : List String) (step : String) (path : FilePath) : Prop :=
  files.startOf path = files.startOf root ∧ (stepsOf path.text <+: front ∨ front ++ [step] <+: stepsOf path.text)

theorem bars_of_prefix (start : files.startOf path = files.startOf root) {whole : List String}
    (isFront : stepsOf path.text <+: whole) (along : front ++ [step] <+: whole) : files.Bars root front step path := by
  refine ⟨start, ?_⟩
  obtain behind | before := List.prefix_or_prefix_of_prefix along isFront
  · exact .inr behind
  · obtain same | before := List.prefix_concat_iff.mp before
    · exact .inr (by rw [same])
    · exact .inl before

theorem Bars.parent {parent : FilePath} (bars : files.Bars root front step path) (isParent : path.parent? = some parent) :
    files.Bars root front step parent := by
  obtain ⟨start, steps⟩ := bars
  obtain ⟨stepsParent, absolute⟩ := FilePath.steps_parent isParent
  have parentStart : files.startOf parent = files.startOf root := (startOf_congr rfl absolute).trans start
  have isFront := stepsParent.trans (List.dropLast_prefix _)
  obtain before | behind := steps
  · exact ⟨parentStart, .inl (isFront.trans before)⟩
  · exact bars_of_prefix parentStart isFront behind

end FileSystem

namespace CompanionType

variable {type : CompanionType} {language : Language} {root directory : FilePath} {files : FileSystem}

/-- Writing a companion leaves the tree as it is, if no directory can be made for it and it cannot be written. -/
theorem emit_stays (barred : FilePath → Prop)
    (never : ∀ path, barred path → ∀ names, files.resolve .entry path ≠ .ok (.free names))
    (closed : ∀ path parent, barred path → path.parent? = some parent → files.resolve .entry path = .error .noEntry →
      barred parent)
    (isParent : (type.outputPath root language.extension).parent? = some directory) (isBarred : barred directory)
    (unresolved : ∀ place, files.resolve .creation (type.outputPath root language.extension) ≠ .ok place) :
    (type.emit language root files).1 = files := by
  have stays := FileSystem.makeDirectoriesWithin_stays never closed (directory.components.length + 1) isBarred
  have unwritten : ∃ cause, files.write (type.outputPath root language.extension) (type.render language) = .error cause := by
    cases resolved : files.resolve .creation (type.outputPath root language.extension) with
    | error reason => exact ⟨reason, FileSystem.write_of_unresolved resolved _⟩
    | ok place => exact absurd resolved (unresolved place)
  obtain ⟨cause, unwritten⟩ := unwritten
  unfold emit prepareDirectory
  simp only [isParent]
  rcases made : files.makeDirectories directory with ⟨after, reason | done⟩
  · rw [FileSystem.makeDirectories] at made
    rw [made] at stays
    exact stays
  · rw [FileSystem.makeDirectories] at made
    rw [made] at stays
    obtain rfl : after = files := stays
    simp only [unwritten]

variable (slashFree : ∀ segment ∈ type.space.segments, '/' ∉ segment.toList)
  (isEntry : IsEntry (type.fileName language.extension))

include slashFree isEntry

/-- Where the steps of the root stop at what is no free name, nothing is made. -/
theorem emit_of_stops {front : List String} {step : String} (stops : files.Stops root front step) :
    (type.emit language root files).1 = files := by
  obtain ⟨directory, houses⟩ := exists_houses root isEntry
  obtain ⟨rest, along⟩ := stops.along
  obtain ⟨absolute, under⟩ := under_of_slashFree slashFree root
  have isBarred : files.Bars root front step directory := by
    obtain ⟨dots, -, split⟩ := houses.steps
    rw [under, along] at split
    exact FileSystem.bars_of_prefix (houses.startOf slashFree files) ⟨dots, split.symm⟩ ⟨rest ++ type.space.segments.filter (· ≠ ""), by simp⟩
  refine emit_stays (files.Bars root front step) (fun path bars names => stops.not_free bars.1 bars.2 names)
    (fun path parent bars isParent _ => bars.parent isParent) houses.isParent isBarred fun place => ?_
  have start : files.startOf (type.outputPath root language.extension) = files.startOf root :=
    FileSystem.startOf_congr rfl ((isAbsolute_outputPath isEntry).trans absolute)
  have steps : stepsOf (type.outputPath root language.extension).text = front ++ step ::
      (rest ++ type.space.segments.filter (· ≠ "") ++ [type.fileName language.extension]) := by
    rw [steps_outputPath isEntry, under, along]
    simp
  exact stops.unresolved start steps (by simp) (by simp [asksForDirectory_outputPath isEntry]) place

theorem emit_of_null (null : '\x00' ∈ root.text.toList) : (type.emit language root files).1 = files := by
  obtain ⟨directory, houses⟩ := exists_houses root isEntry
  have steps : ∀ path : FilePath, '\x00' ∈ path.text.toList ↔ ∃ step ∈ stepsOf path.text, '\x00' ∈ step.toList :=
    FilePath.mem_text_iff (by decide)
  have unresolved : ∀ (purpose : FileSystem.Purpose) (path : FilePath), '\x00' ∈ path.text.toList →
      files.resolve purpose path = .error .nulInName := by
    intro purpose path inside
    unfold FileSystem.resolve
    rw [if_pos (by simpa using inside)]
  obtain ⟨step, member, inside⟩ := (steps root).mp null
  have under := (under_of_slashFree slashFree root).2
  have isBarred : '\x00' ∈ directory.text.toList := by
    obtain ⟨dots, stay, split⟩ := houses.steps
    rw [under] at split
    have along : step ∈ stepsOf directory.text ++ dots := split ▸ List.mem_append_left _ member
    obtain inDirectory | inDots := List.mem_append.mp along
    · exact (steps directory).mpr ⟨step, inDirectory, inside⟩
    · rw [stay step inDots] at inside
      simp at inside
  have here : '\x00' ∈ (type.outputPath root language.extension).text.toList := by
    refine (steps _).mpr ⟨step, ?_, inside⟩
    rw [steps_outputPath isEntry, under]
    simp [member]
  refine emit_stays (fun path => '\x00' ∈ path.text.toList)
    (fun path isBarred names => by rw [unresolved _ path isBarred]; simp)
    (fun path parent isBarred _ missing => by simp [unresolved _ path isBarred] at missing)
    houses.isParent isBarred fun place => by rw [unresolved _ _ here]; simp

end CompanionType

end Companion
