import Companion.Proofs.Emission
import Companion.Proofs.FileSystem.Refusal

set_option autoImplicit false

namespace Companion

namespace FileSystem

variable {files : FileSystem} {path : FilePath}

def denial (files : FileSystem) (path : FilePath) (name : String) : Option OsError :=
  match flaw? path with
  | some cause => some cause
  | none =>
      match files.shape? (files.startOf path) with
      | none => some .noEntry
      | some .directory =>
          if longestName < name.utf8ByteSize then some .nameTooLong
          else if files.shape? (files.placeOf path) = some .directory then some .isDirectory
          else none
      | some _ => some .notDirectory

theorem write_of_unresolved {reason : OsError} (unresolved : files.resolve .creation path = .error reason)
    (text : String) : files.write path text = .error reason := by
  unfold write target
  rw [unresolved]

section Write

variable {init : List String} {name : String} (linkFree : files.LinkFree)
  (steps : stepsOf path.text = init ++ [name]) (isEntry : IsEntry name)
  (noSlash : asksForDirectory path.text = false) (nonempty : path.text ≠ "")
  (paved : files.face? (files.startOf path) = some .directory → files.Paved (files.startOf path) init)

include steps isEntry in
theorem placeOf_name : files.placeOf path = reach (files.startOf path) init ++ [name] := by
  rw [placeOf, steps, reach_snoc, advance_name isEntry.ne_current isEntry.ne_parent]

include linkFree steps isEntry noSlash nonempty paved

/-- A file is written at its place, or what is reported is why not. -/
theorem write_cases (text : String) :
    (∃ cause, files.denial path name = some cause ∧ files.write path text = .error cause) ∨
      (files.denial path name = none ∧ files.root.Fits (files.placeOf path) ∧
        files.write path text = .ok (files.put (files.placeOf path) (.file text.toUTF8))) := by
  have place : files.placeOf path = _ := placeOf_name steps isEntry
  unfold denial
  cases flawed : flaw? path with
  | some cause =>
      obtain ⟨unresolved, -⟩ := resolve_of_flaw? files nonempty flawed .creation
      exact .inl ⟨cause, rfl, write_of_unresolved unresolved text⟩
  | none =>
      have admissible := admissible_of_flaw? nonempty flawed
      obtain missing | isFile | isDirectory := shape?_cases linkFree (files.startOf path)
      · have unresolved : files.resolve .creation path = .error .noEntry :=
          resolve_of_error admissible (descend_of_no_start missing _)
        exact .inl ⟨.noEntry, by rw [missing], write_of_unresolved unresolved text⟩
      · obtain ⟨content, face⟩ := shape?_eq_file.mp isFile
        have found := get?_of_face?_file face
        have blocked : files.descend .creation (asksForDirectory path.text) (files.startOf path) (stepsOf path.text) =
            .error .notDirectory := by
          rw [steps]
          cases init <;> simp [descend, found]
        exact .inl ⟨.notDirectory, by rw [isFile], write_of_unresolved (resolve_of_error admissible blocked) text⟩
      · have way := paved (shape?_eq_directory.mp isDirectory)
        have allowed : ¬ (asksForDirectory path.text = true ∧ Purpose.creation = .creation) := by simp [noSlash]
        rw [isDirectory, place]
        by_cases isLong : longestName < name.utf8ByteSize
        · have unresolved := resolve_of_long allowed admissible steps way isEntry.ne_current isEntry.ne_parent isLong
          exact .inl ⟨.nameTooLong, if_pos isLong, write_of_unresolved unresolved text⟩
        have fits := Nat.le_of_not_lt isLong
        simp only [isLong, if_false]
        obtain missing | isFile | isInner := shape?_cases linkFree (reach (files.startOf path) init ++ [name])
        · have resolved := resolve_of_missing allowed admissible steps way isEntry.ne_current isEntry.ne_parent fits missing
          refine .inr ⟨by simp [missing], ⟨fun _ => ?_, .inl (shape?_eq_none.mp missing)⟩, ?_⟩
          · rw [List.dropLast_concat]
            exact way.directory
          · simp only [write, target, resolved, List.isEmpty_nil, if_true]
        · obtain ⟨content, face⟩ := shape?_eq_file.mp isFile
          have resolved := resolve_of_file allowed admissible steps way isEntry.ne_current isEntry.ne_parent (by simp) fits face
          refine .inr ⟨by simp [isFile], fits_of_file (get?_of_face?_file face), ?_⟩
          simp only [write, target, resolved, List.isEmpty_nil, if_true]
        · have inner := shape?_eq_directory.mp isInner
          have whole : files.Paved (files.startOf path) (stepsOf path.text) := by
            rw [steps]
            refine way.snoc (.inr (.inr fits)) ?_
            rwa [advance_name isEntry.ne_current isEntry.ne_parent]
          obtain ⟨entries, resolved⟩ := resolve_of_paved allowed admissible whole
          exact .inl ⟨.isDirectory, by simp [isInner], by simp only [write, target, resolved]⟩

end Write

end FileSystem

namespace CompanionType

open FileSystem (OnWay Opens)

variable {type : CompanionType} {language : Language} {root : FilePath} {files : FileSystem}

/-- What the path of a companion has to do with the directory that is made for it. -/
structure Houses (type : CompanionType) (language : Language) (root directory : FilePath) : Prop where
  isParent : (type.outputPath root language.extension).parent? = some directory
  trimmed : directory.Trimmed
  absolute : directory.isAbsolute = (type.space.under root).isAbsolute
  steps : ∃ dots, (∀ step ∈ dots, step = ".") ∧
    FileSystem.stepsOf (type.space.under root).text = FileSystem.stepsOf directory.text ++ dots

theorem exists_houses (root : FilePath) (isEntry : IsEntry (type.fileName language.extension)) :
    ∃ directory, type.Houses language root directory := by
  have steps : FileSystem.stepsOf (type.outputPath root language.extension).text = _ := steps_outputPath isEntry
  have trimmed : (type.outputPath root language.extension).Trimmed := by
    intro front ends
    rw [steps] at ends
    have last : type.fileName language.extension = "." := by simpa using (List.append_inj' ends rfl).2
    exact absurd last isEntry.ne_current
  cases isParent : (type.outputPath root language.extension).parent? with
  | none =>
      have stays := FilePath.stay_of_no_parent isParent (type.fileName language.extension) (by simp [steps])
      exact absurd stays isEntry.ne_current
  | some directory =>
      obtain ⟨dots, last, split, stay⟩ := FilePath.steps_of_parent trimmed isParent
      rw [steps] at split
      exact ⟨directory, isParent, FilePath.trimmed_parent isParent,
        (FilePath.steps_parent isParent).2.trans (isAbsolute_outputPath isEntry), dots, stay,
        (List.append_inj' split rfl).1⟩

theorem text_outputPath_ne_empty (isEntry : IsEntry (type.fileName language.extension)) :
    (type.outputPath root language.extension).text ≠ "" := by
  intro empty
  have steps : FileSystem.stepsOf (type.outputPath root language.extension).text = _ := steps_outputPath isEntry
  rw [empty, FilePath.steps_empty] at steps
  simp at steps

theorem startOf_outputPath (isEntry : IsEntry (type.fileName language.extension)) {directory : FilePath}
    (houses : type.Houses language root directory) :
    files.startOf (type.outputPath root language.extension) = files.startOf directory :=
  FileSystem.startOf_congr rfl ((isAbsolute_outputPath isEntry).trans houses.absolute.symm)

/-- Where the directory of a companion can be made, and what it starts from is a directory, the way to the companion
then leads through directories. -/
theorem paved_of_opens (linkFree : files.LinkFree) {directory : FilePath} {made : FileSystem}
    (houses : type.Houses language root directory) (opens : files.Opens (files.OnWay directory) made)
    (granted : files.refusal directory = none) (start : made.face? (made.startOf directory) = some .directory) :
    made.Paved (made.startOf directory) (FileSystem.stepsOf (type.space.under root).text) := by
  obtain ⟨dots, stay, steps⟩ := houses.steps
  have sameStart : made.startOf directory = files.startOf directory := FileSystem.startOf_congr opens.working rfl
  rw [sameStart] at start ⊢
  have further : ∀ front, made.Paved (files.startOf directory) front →
      made.Paved (files.startOf directory) (front ++ dots) := by
    clear steps
    induction dots with
    | nil => simp
    | cons step dots ih =>
        intro front paved
        obtain ⟨rfl, others⟩ := List.forall_mem_cons.mp stay
        rw [List.append_cons]
        exact ih others _ paved.current
  rw [steps]
  refine further _ ?_
  unfold FileSystem.refusal at granted
  split at granted
  · rename_i empty
    rw [empty, FilePath.steps_empty]
    exact .nil start
  · split at granted
    · cases granted
    · rename_i flawless
      split at granted
      · cases granted
      · rename_i isDirectory
        have was := FileSystem.shape?_eq_directory.mp isDirectory
        have isClear := FileSystem.obstacle_eq_none.mp granted
        have paved := (opens.congr fun names => ⟨FileSystem.OnWay.onClear, fun onClear =>
          ⟨flawless, was, onClear⟩⟩).paved linkFree was
        rwa [isClear] at paved
      · cases granted

/-- What the attempt to write a companion leaves: the directories on its way, and its file if it is written. -/
structure Leaves (type : CompanionType) (language : Language) (root directory : FilePath) (files after : FileSystem)
    (written : Prop) : Prop where
  working : after.working = files.working
  file : written → after.face? (files.placeOf (type.outputPath root language.extension)) =
    some (.file (type.render language).toUTF8)
  made : ∀ names, files.face? names = none → files.OnWay directory names → after.face? names = some .directory
  kept : ∀ names, (written → names ≠ files.placeOf (type.outputPath root language.extension)) →
    files.face? names ≠ none ∨ ¬ files.OnWay directory names → after.face? names = files.face? names

/-- What is reported of the attempt to write a companion, by why its directory cannot be made and why its file cannot be
written in it. -/
def outcome (type : CompanionType) (language : Language) (root directory : FilePath) (refusal denial : Option OsError) :
    Except GenerateError FilePath :=
  match refusal with
  | some cause => .error (.createDirectory directory cause)
  | none =>
      match denial with
      | some cause => .error (.write (type.outputPath root language.extension) cause)
      | none => .ok (type.outputPath root language.extension)

theorem outcome_ok {directory path : FilePath} {refusal denial : Option OsError}
    (ok : type.outcome language root directory refusal denial = .ok path) : refusal = none ∧ denial = none := by
  unfold outcome at ok
  split at ok
  · cases ok
  · split at ok
    · cases ok
    · exact ⟨rfl, rfl⟩

/-- What the attempt to write a companion comes to. In between, the directories have been made. -/
structure Emits (type : CompanionType) (language : Language) (root directory : FilePath) (files made : FileSystem)
    (result : FileSystem × Except GenerateError FilePath) : Prop where
  opens : files.Opens (files.OnWay directory) made
  outcome : result.2 = type.outcome language root directory (files.refusal directory)
    (made.denial (type.outputPath root language.extension) (type.fileName language.extension))
  leaves : type.Leaves language root directory files result.1 (∃ path, result.2 = .ok path)

theorem leaves_of_error {directory : FilePath} {made : FileSystem} {error : GenerateError}
    (opens : files.Opens (files.OnWay directory) made) :
    type.Leaves language root directory files made
      (∃ path, (Except.error error : Except GenerateError FilePath) = .ok path) :=
  ⟨opens.working, fun ⟨_, never⟩ => (by cases never), opens.made, fun names _ => opens.kept names⟩

theorem denial_of_directory {made : FileSystem} (allowed : made.denial (type.outputPath root language.extension)
    (type.fileName language.extension) = none) :
    made.face? (made.placeOf (type.outputPath root language.extension)) ≠ some .directory ∧
      made.face? (made.startOf (type.outputPath root language.extension)) = some .directory := by
  unfold FileSystem.denial at allowed
  split at allowed
  · cases allowed
  · split at allowed
    · cases allowed
    · rename_i isDirectory
      refine ⟨fun inner => ?_, FileSystem.shape?_eq_directory.mp isDirectory⟩
      rw [FileSystem.shape?_eq_directory.mpr inner] at allowed
      split at allowed <;> simp at allowed
    · cases allowed

/-- Every attempt to write a companion comes to this. -/
theorem exists_emits (linkFree : files.LinkFree) (isEntry : IsEntry (type.fileName language.extension))
    {directory : FilePath} (houses : type.Houses language root directory) :
    ∃ made, type.Emits language root directory files made (type.emit language root files) := by
  have making := FileSystem.makeDirectories_opens linkFree houses.trimmed
  rcases made_eq : files.makeDirectories directory with ⟨made, result⟩
  rw [made_eq] at making
  obtain ⟨opens, verdict⟩ : files.Opens (files.OnWay directory) made ∧
    result = FileSystem.verdict (files.refusal directory) := making
  have sameStart : made.startOf (type.outputPath root language.extension) = made.startOf directory :=
    startOf_outputPath isEntry houses
  refine ⟨made, ?_⟩
  cases refusal : files.refusal directory with
  | some cause =>
      obtain rfl : result = .error cause := by rw [refusal] at verdict; exact verdict
      have prepared : prepareDirectory files (type.outputPath root language.extension) =
          (made, .error (.createDirectory directory cause)) := by
        simp only [prepareDirectory, houses.isParent, made_eq]
      rw [emit_of_unprepared prepared]
      exact ⟨opens, by simp only [refusal, outcome], leaves_of_error opens⟩
  | none =>
      obtain rfl : result = .ok () := by rw [refusal] at verdict; exact verdict
      have prepared : prepareDirectory files (type.outputPath root language.extension) = (made, .ok ()) := by
        simp only [prepareDirectory, houses.isParent, made_eq]
      have written := FileSystem.write_cases (opens.linkFree linkFree) (steps_outputPath isEntry) isEntry
        (asksForDirectory_outputPath isEntry) (text_outputPath_ne_empty isEntry)
        (fun start => by
          rw [sameStart] at start ⊢
          exact paved_of_opens linkFree houses opens refusal start) (type.render language)
      obtain ⟨cause, denial, failed⟩ | ⟨allowed, fits, wrote⟩ := written
      · rw [emit_of_unwritten prepared failed]
        exact ⟨opens, by simp only [refusal, denial, outcome], leaves_of_error opens⟩
      · rw [emit_of_written prepared wrote]
        have samePlace := congrFun (FileSystem.placeOf_congr opens.working) (type.outputPath root language.extension)
        have faces := fun names => FileSystem.face?_put (Node.isLeaf_file (type.render language).toUTF8) fits names
        obtain ⟨notDirectory, -⟩ := denial_of_directory allowed
        refine ⟨opens, by simp only [refusal, allowed, outcome], (FileSystem.put_working _ _ _).trans opens.working,
          fun _ => ?_, fun names missing onWay => ?_, fun names elsewhere unchanged => ?_⟩
        · rw [← samePlace, faces, if_pos rfl]
          rfl
        · have isDirectory := opens.made names missing onWay
          have other : names ≠ made.placeOf (type.outputPath root language.extension) := by
            rintro rfl
            exact notDirectory isDirectory
          rw [faces, if_neg other, isDirectory]
        · rw [faces, if_neg (samePlace ▸ elsewhere ⟨_, rfl⟩)]
          exact opens.kept names unchanged

/-- A directory that is there stays, since no file is written in its place. -/
theorem Emits.directory_stays {directory : FilePath} {made : FileSystem}
    {result : FileSystem × Except GenerateError FilePath} (emits : type.Emits language root directory files made result)
    {names : List String} (isDirectory : files.face? names = some .directory) : result.1.face? names = some .directory := by
  have something : files.face? names ≠ none := by simp [isDirectory]
  rw [← isDirectory]
  refine emits.leaves.kept names (fun ⟨path, ok⟩ atPlace => ?_) (.inl something)
  have outcome := emits.outcome
  rw [ok] at outcome
  have notDirectory := (denial_of_directory (outcome_ok outcome.symm).2).1
  rw [FileSystem.placeOf_congr emits.opens.working, ← atPlace, emits.opens.kept names (.inl something)] at notDirectory
  exact notDirectory isDirectory

end CompanionType

end Companion
