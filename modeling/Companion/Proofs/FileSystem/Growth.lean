import Companion.Proofs.FileSystem.Links
import Companion.Proofs.FileSystem.Sorted
import Companion.Workspace

/-!
Trees that only grow. Making directories and opening a file to append to it put something at free names and leave all else
as it is, also where the way to these names leads through links. So the paths that led to files lead to them still.
-/

set_option autoImplicit false

namespace Companion

namespace FileSystem

variable {files middle after : FileSystem} {purpose : Purpose} {asksDirectory : Bool} {links : Nat}
  {here steps names : List String} {path : FilePath}

namespace Extends

theorem refl (files : FileSystem) : files.Extends files :=
  ⟨rfl, rfl, fun _ _ found => found⟩

theorem trans (first : files.Extends middle) (second : middle.Extends after) : files.Extends after :=
  ⟨second.working.trans first.working, second.closed.trans first.closed, fun names face found =>
    second.faces names face (first.faces names face found)⟩

theorem isFile (extended : files.Extends after) (isFile : files.isFile path = true) : after.isFile path = true := by
  unfold FileSystem.isFile at isFile ⊢
  split at isFile
  · rename_i resolved
    rw [extended.resolve_file resolved]
  · contradiction

end Extends

/-- Whether something new can be put at a place: it stands in a directory, and there is nothing at it. -/
structure IsVacant (files : FileSystem) (names : List String) : Prop where
  fits : files.root.Fits names
  face : files.face? names = none

theorem isVacant_of_descend (walked : files.descend purpose asksDirectory here steps = .ok (.arrived (.free names))) :
    files.IsVacant names := by
  induction steps generalizing here with
  | nil =>
      unfold descend at walked
      split at walked
      · cases eq_of_arrive walked
      · contradiction
  | cons step steps ih =>
      obtain ⟨isDirectory, -, taken⟩ := takes_of_descend walked
      cases taken with
      | goesOn _ walkedOn => exact ih walkedOn
      | free _ _ _ _ missing => exact ⟨⟨fun _ => by rwa [List.dropLast_concat], .inl missing⟩, missing⟩

theorem isVacant_of_follow (followed : files.follow purpose links asksDirectory here steps = .ok (.free names)) :
    files.IsVacant names := by
  induction links using Nat.strong_induction_on generalizing asksDirectory here steps with
  | _ links ih =>
      obtain walked | ⟨fewer, _, _, _, rfl, -, -, further⟩ := follow_cases followed
      · exact isVacant_of_descend walked
      · exact ih fewer (Nat.lt_succ_self fewer) further

/-- What a path leads to, where it leads to a free name, is vacant. -/
theorem isVacant_of_resolve (resolved : files.resolve purpose path = .ok (.free names)) : files.IsVacant names :=
  isVacant_of_follow (follow_of_resolve resolved)

theorem IsVacant.extends_put (isVacant : files.IsVacant names) {node : Node} (leaf : node.IsLeaf) :
    files.Extends (files.put names node) := by
  refine ⟨rfl, rfl, fun other face found => ?_⟩
  have elsewhere : other ≠ names := by
    rintro rfl
    rw [isVacant.face] at found
    contradiction
  rw [face?_put leaf isVacant.fits, if_neg elsewhere, found]

theorem extends_makeDirectory (made : files.makeDirectory path = .ok after) : files.Extends after := by
  unfold makeDirectory at made
  split at made
  · contradiction
  · contradiction
  · rename_i names resolved
    cases made
    exact (isVacant_of_resolve resolved).extends_put Node.isLeaf_emptyDirectory

theorem extends_makeDirectories (files : FileSystem) (path : FilePath) : files.Extends (files.makeDirectories path).1 :=
  makeDirectoriesWithin_keeps (fun extended made => extended.trans (extends_makeDirectory made)) _ path (.refl files)

theorem extends_openAppend (opened : files.openAppend path = .ok (after, names)) : files.Extends after := by
  unfold openAppend target at opened
  cases resolved : files.resolve .creation path with
  | error reason => simp [resolved] at opened
  | ok place =>
      rw [resolved] at opened
      cases place with
      | free names =>
          cases opened
          exact (isVacant_of_resolve resolved).extends_put (Node.isLeaf_file ByteArray.empty)
      | taken names node =>
          cases node with
          | file content =>
              cases opened
              exact .refl files
          | link target => contradiction
          | directory entries => contradiction

end FileSystem

namespace Workspace

variable {files : FileSystem}

theorem extends_openAppendFile (files : FileSystem) (path : FilePath) :
    files.Extends (openAppendFile files path).1 := by
  unfold openAppendFile
  extract_lets directories
  have made : files.Extends directories.1 := by
    unfold directories
    split
    · split
      · exact .refl files
      · exact FileSystem.extends_makeDirectories files _
    · exact .refl files
  clear_value directories
  obtain ⟨reached, failed | _⟩ := directories
  · exact made
  · dsimp only
    split
    · exact made
    · rename_i opened
      exact made.trans (FileSystem.extends_openAppend opened)

theorem extends_startLog (work : Workspace) (config : Log.Config) (environment : Option String) :
    work.files.Extends (work.startLog config environment).1.files := by
  unfold startLog
  cases config.file with
  | none => exact .refl work.files
  | some path =>
      have opened := extends_openAppendFile work.files path
      dsimp only
      split
      · rename_i reached
        rwa [reached] at opened
      · rename_i reached
        rwa [reached] at opened

end Workspace

end Companion
