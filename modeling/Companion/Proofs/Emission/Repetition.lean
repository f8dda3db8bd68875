import Companion.Proofs.Emission.Growth

/-!
Writing a companion again. Whatever has come in between, as long as nothing has gone: what could be made has been made,
and what was in the way is still in the way, so the second attempt comes to what the first one came to, and makes nothing
new.
-/

set_option autoImplicit false

namespace Companion

namespace FileSystem

variable {files made after : FileSystem} {here steps : List String}

/-- Whether a tree has all that another has, each thing of the same sort. -/
structure Keeps (files after : FileSystem) : Prop where
  working : after.working = files.working
  shapes : ∀ names, files.shape? names ≠ none → after.shape? names = files.shape? names

namespace Keeps

theorem ofSame (working : after.working = files.working) (same : ∀ names, after.shape? names = files.shape? names) :
    Keeps files after :=
  ⟨working, fun names _ => same names⟩

theorem trans (first : Keeps files made) (second : Keeps made after) : Keeps files after := by
  refine ⟨second.working.trans first.working, fun names some => ?_⟩
  have same := first.shapes names some
  rw [second.shapes names (same ▸ some), same]

variable (keeps : Keeps files after)

include keeps

theorem directory {names : List String} (isDirectory : files.face? names = some .directory) :
    after.face? names = some .directory := by
  rw [← shape?_eq_directory] at isDirectory ⊢
  rw [keeps.shapes names (by simp [isDirectory]), isDirectory]

theorem missing {names : List String} (missing : after.shape? names = none) : files.shape? names = none := by
  by_contra some
  rw [keeps.shapes names some] at missing
  exact some missing

theorem steady {root : FilePath} (steady : files.Steady root) : after.Steady root := by
  intro front rest steps missing
  rw [startOf_congr keeps.working rfl] at missing
  exact steady front rest steps (keeps.missing missing)

end Keeps

theorem Paved.keeps (paved : files.Paved here steps) (keeps : Keeps files after) : after.Paved here steps :=
  ⟨paved.leads.mono fun _ => keeps.directory, keeps.directory paved.directory⟩

theorem Opens.keeps {places : List String → Prop} (opens : files.Opens places made) : Keeps files made := by
  refine ⟨opens.working, fun names some => ?_⟩
  rw [shape?, shape?, opens.kept names (.inl (mt shape?_eq_none.mpr some))]

theorem not_passes_iff {step : String} : files.passes here step = false ↔
    (step ≠ "." ∧ step ≠ "..") ∧ (longestName < step.utf8ByteSize ∨ files.shape? (here ++ [step]) = some .file) := by
  simp [passes, or_iff_not_imp_left]

/-- Once all directories on a way have been made, the way is clear as far as it was before, and leads through directories
so far. -/
theorem clear_again (linkFree : files.LinkFree) (start : files.face? here = some .directory)
    (opens : files.Opens (files.OnClear here steps) made) (keeps : Keeps made after) :
    after.clear here steps = files.clear here steps ∧ after.Paved here (files.clear here steps) := by
  have paved := (opens.paved linkFree start).keeps keeps
  refine ⟨?_, paved⟩
  by_cases isClear : files.clear here steps = steps
  · rw [isClear] at paved ⊢
    exact paved.clear
  · obtain ⟨step, rest, split, stops⟩ := exists_stop isClear
    obtain ⟨forward, inTheWay⟩ := not_passes_iff.mp stops
    have stopsAgain : after.passes (reach here (files.clear here steps)) step = false := by
      refine not_passes_iff.mpr ⟨forward, inTheWay.imp_right fun isFile => ?_⟩
      have isFileMade := (opens.shape?_eq_file _).mpr isFile
      rw [keeps.shapes _ (by simp [isFileMade]), isFileMade]
    conv => lhs; rw [split]
    exact clear_of_stop paved.clear stopsAgain

section Directory

variable {root directory : FilePath} {segments : List String} (linkFree : files.LinkFree)
  (opens : files.Opens (files.OnWay directory) made) (keeps : Keeps made after)

include linkFree opens keeps

theorem clear_onWay_again (flawless : flaw? directory = none)
    (isDirectory : files.face? (files.startOf directory) = some .directory) :
    after.clear (files.startOf directory) (stepsOf directory.text) =
        files.clear (files.startOf directory) (stepsOf directory.text) ∧
      after.Paved (files.startOf directory) (files.clear (files.startOf directory) (stepsOf directory.text)) :=
  clear_again linkFree isDirectory
    (opens.congr fun _ => ⟨OnWay.onClear, fun onClear => ⟨flawless, isDirectory, onClear⟩⟩) keeps

variable (start : after.shape? (files.startOf directory) = files.shape? (files.startOf directory))

include start

theorem not_missing_again {names : List String} (onWay : after.OnWay directory names) : after.face? names ≠ none := by
  have sameStart : after.startOf directory = files.startOf directory :=
    startOf_congr (keeps.working.trans opens.working) rfl
  have isDirectory := onWay.start
  rw [sameStart, ← shape?_eq_directory, start, shape?_eq_directory] at isDirectory
  obtain ⟨sameClear, paved⟩ := clear_onWay_again linkFree opens keeps onWay.flawless isDirectory
  obtain ⟨front, isFront, rfl⟩ := onWay.onClear
  rw [sameStart] at isFront ⊢
  rw [sameClear] at isFront
  simp [paved.atFront isFront]

/-- A directory is refused again as it was before, but for the causes that a file in the way can have. Nothing is missing
in front of that file by now; if that was so before, the cause is the same. -/
theorem refusal_again :
    (after.refusal directory).map OsError.coarse = (files.refusal directory).map OsError.coarse ∧
      ((∀ front step rest, stepsOf directory.text = front ++ step :: rest →
          files.shape? (reach (files.startOf directory) front ++ [step]) = some .file →
          files.lacks (files.startOf directory) front = false) →
        after.refusal directory = files.refusal directory) := by
  have sameStart : after.startOf directory = files.startOf directory :=
    startOf_congr (keeps.working.trans opens.working) rfl
  unfold refusal
  rw [sameStart, start]
  split
  · exact ⟨rfl, fun _ => rfl⟩
  · split
    · exact ⟨rfl, fun _ => rfl⟩
    · rename_i flawless
      split
      · exact ⟨rfl, fun _ => rfl⟩
      · rename_i isDirectory
        obtain ⟨sameClear, paved⟩ :=
          clear_onWay_again linkFree opens keeps flawless (shape?_eq_directory.mp isDirectory)
        by_cases isClear : files.clear (files.startOf directory) (stepsOf directory.text) = stepsOf directory.text
        · rw [obstacle_of_clear isClear, obstacle_of_clear (sameClear.trans isClear)]
          exact ⟨rfl, fun _ => rfl⟩
        · obtain ⟨step, rest, split, stops⟩ := exists_stop isClear
          obtain ⟨front, clear⟩ : ∃ front, files.clear (files.startOf directory) (stepsOf directory.text) = front :=
            ⟨_, rfl⟩
          rw [clear] at split stops paved sameClear
          rw [split] at clear sameClear ⊢
          rw [obstacle_of_stop clear, obstacle_of_stop sameClear, paved.not_lacks]
          constructor
          · split
            · rfl
            · split <;> split <;> rfl
          · intro unlacking
            split
            · rfl
            · rename_i fits
              rw [unlacking front step rest rfl (file_of_not_passes stops (Nat.le_of_not_lt fits))]
      · exact ⟨rfl, fun _ => rfl⟩

end Directory

end FileSystem

/-- Joining texts without slashes adds those that are not empty to the steps of a path. -/
theorem FilePath.below_of_slashFree (path : FilePath) {names : List String}
    (slashFree : ∀ name ∈ names, '/' ∉ name.toList) : (path.below names).isAbsolute = path.isAbsolute ∧
      FileSystem.stepsOf (path.below names).text = FileSystem.stepsOf path.text ++ names.filter (· ≠ "") := by
  induction names generalizing path with
  | nil => simp
  | cons name others ih =>
      obtain ⟨isFree, othersFree⟩ := List.forall_mem_cons.mp slashFree
      have relative := FilePath.isAbsolute_of_slashFree isFree
      have single : FileSystem.stepsOf name = [name].filter (· ≠ "") := by
        rw [FileSystem.stepsOf, pieces_of_slashFree isFree]
      obtain ⟨absolute, steps⟩ := ih (path.join name) othersFree
      rw [below_cons, absolute, steps, isAbsolute_join _ relative, steps_join _ relative, single, List.append_assoc,
        ← List.filter_append, List.singleton_append]
      exact ⟨rfl, rfl⟩

namespace CompanionType

open FileSystem (Keeps OnWay Opens)

variable {type : CompanionType} {language : Language} {root directory : FilePath} {files made : FileSystem}
  {result : FileSystem × Except GenerateError FilePath}

theorem Emits.allowed_of_written (emits : type.Emits language root directory files made result) (written : ∃ path, result.2 = .ok path) :
    files.refusal directory = none ∧
      made.denial (type.outputPath root language.extension) (type.fileName language.extension) = none := by
  obtain ⟨path, ok⟩ := written
  exact outcome_ok (emits.outcome ▸ ok)

/-- Beside the file that is written, the tree is as it is once the directories have been made. -/
theorem Emits.face?_of_ne (emits : type.Emits language root directory files made result) {names : List String}
    (elsewhere : (∃ path, result.2 = .ok path) → names ≠ files.placeOf (type.outputPath root language.extension)) :
    result.1.face? names = made.face? names := by
  by_cases isMade : files.face? names = none ∧ files.OnWay directory names
  · rw [emits.leaves.made names isMade.1 isMade.2, emits.opens.made names isMade.1 isMade.2]
  · have unchanged := not_and_or.mp isMade
    rw [emits.leaves.kept names elsewhere unchanged, emits.opens.kept names unchanged]

theorem Emits.keeps (linkFree : files.LinkFree) (emits : type.Emits language root directory files made result) :
    Keeps made result.1 ∧ Keeps files result.1 := by
  have second : Keeps made result.1 := by
    refine ⟨emits.leaves.working.trans emits.opens.working.symm, fun names some => ?_⟩
    by_cases isWritten : (∃ path, result.2 = .ok path) ∧ names = files.placeOf (type.outputPath root language.extension)
    · obtain ⟨written, rfl⟩ := isWritten
      obtain ⟨-, allowed⟩ := emits.allowed_of_written written
      obtain ⟨notDirectory, -⟩ := denial_of_directory allowed
      rw [FileSystem.placeOf_congr emits.opens.working] at notDirectory
      obtain missing | isFile | isDirectory := FileSystem.shape?_cases (emits.opens.linkFree linkFree)
        (files.placeOf (type.outputPath root language.extension))
      · exact absurd missing some
      · rw [isFile, FileSystem.shape?_eq_file]
        exact ⟨_, emits.leaves.file written⟩
      · exact absurd (FileSystem.shape?_eq_directory.mp isDirectory) notDirectory
    · rw [FileSystem.shape?, FileSystem.shape?,
        emits.face?_of_ne fun written same => isWritten ⟨written, same⟩]
  exact ⟨second, emits.opens.keeps.trans second⟩

theorem Emits.start (linkFree : files.LinkFree) (isEntry : IsEntry (type.fileName language.extension))
    (houses : type.Houses language root directory) (emits : type.Emits language root directory files made result) :
    result.1.shape? (files.startOf directory) = files.shape? (files.startOf directory) := by
  by_cases written : ∃ path, result.2 = .ok path
  · obtain ⟨-, allowed⟩ := emits.allowed_of_written written
    obtain ⟨-, isDirectory⟩ := denial_of_directory allowed
    rw [startOf_outputPath isEntry houses, ← FileSystem.shape?_eq_directory, emits.opens.start] at isDirectory
    exact (emits.keeps linkFree).2.shapes _ (by simp [isDirectory])
  · have same := emits.opens.start
    rw [FileSystem.startOf_congr emits.opens.working rfl] at same
    rw [FileSystem.shape?, emits.face?_of_ne fun isWritten => absurd isWritten written]
    exact same

section Again

variable {after madeAgain : FileSystem} {resultAgain : FileSystem × Except GenerateError FilePath}
  (linkFree : files.LinkFree) (emits : type.Emits language root directory files made result)
  (again : type.Emits language root directory after madeAgain resultAgain) (keeps : Keeps result.1 after)
  (start : after.shape? (files.startOf directory) = files.shape? (files.startOf directory))

include linkFree emits again keeps start

theorem face?_again (names : List String) : madeAgain.face? names = after.face? names := by
  obtain same | ⟨missing, onWay, -⟩ := again.opens.face names
  · exact same
  · exact absurd missing
      (FileSystem.not_missing_again linkFree emits.opens ((emits.keeps linkFree).1.trans keeps) start onWay)

variable (isEntry : IsEntry (type.fileName language.extension)) (houses : type.Houses language root directory)

include isEntry houses

theorem denial_again (granted : files.refusal directory = none) :
    madeAgain.denial (type.outputPath root language.extension) (type.fileName language.extension) =
      made.denial (type.outputPath root language.extension) (type.fileName language.extension) := by
  have working : after.working = files.working := keeps.working.trans emits.leaves.working
  have sameStart : madeAgain.shape? (madeAgain.startOf (type.outputPath root language.extension)) =
      made.shape? (made.startOf (type.outputPath root language.extension)) := by
    rw [startOf_outputPath isEntry houses, startOf_outputPath isEntry houses, again.opens.start, emits.opens.start,
      FileSystem.startOf_congr working rfl, start]
  have samePlace : madeAgain.placeOf (type.outputPath root language.extension) =
      made.placeOf (type.outputPath root language.extension) := by
    rw [FileSystem.placeOf_congr again.opens.working, FileSystem.placeOf_congr emits.opens.working,
      FileSystem.placeOf_congr working]
  have sameShape : ∀ names, madeAgain.shape? names = after.shape? names := fun names => by
    rw [FileSystem.shape?, FileSystem.shape?, face?_again linkFree emits again keeps start]
  have keepsMade : Keeps made after := (emits.keeps linkFree).1.trans keeps
  -- Where there was no directory before, a file was written, and it is there by now.
  have filed : made.denial (type.outputPath root language.extension) (type.fileName language.extension) = none →
      after.shape? (made.placeOf (type.outputPath root language.extension)) = some .file := by
    intro allowed
    have isFile := FileSystem.shape?_eq_file.mpr
      ⟨_, emits.leaves.file ⟨_, by rw [emits.outcome, granted, allowed, CompanionType.outcome]⟩⟩
    rw [FileSystem.placeOf_congr emits.opens.working, keeps.shapes _ (by simp [isFile]), isFile]
  unfold FileSystem.denial at filed ⊢
  rw [sameStart, samePlace, sameShape]
  split
  · rfl
  · split
    · rfl
    · rename_i flawless _ isDirectory
      by_cases isLong : FileSystem.longestName < (type.fileName language.extension).utf8ByteSize
      · simp only [isLong, if_true]
      · simp only [flawless, isDirectory, isLong, if_false] at filed ⊢
        by_cases wasDirectory :
            made.shape? (made.placeOf (type.outputPath root language.extension)) = some .directory
        · rw [keepsMade.shapes _ (by simp [wasDirectory])]
        · rw [if_neg wasDirectory] at filed ⊢
          rw [filed rfl, if_neg (by simp)]
    · rfl

/-- What is reported of a companion that is written again is what was reported before, but for the causes that a file in
the way can have; and without exception if nothing was missing in front of such a file. -/
theorem outcome_again :
    resultAgain.2.mapError GenerateError.coarse = result.2.mapError GenerateError.coarse ∧
      ((∀ front step rest, FileSystem.stepsOf directory.text = front ++ step :: rest →
          files.shape? (FileSystem.reach (files.startOf directory) front ++ [step]) = some .file →
          files.lacks (files.startOf directory) front = false) → resultAgain.2 = result.2) := by
  have denials := denial_again linkFree emits again keeps start isEntry houses
  obtain ⟨coarse, exact⟩ := FileSystem.refusal_again linkFree emits.opens ((emits.keeps linkFree).1.trans keeps) start
  rw [again.outcome, emits.outcome]
  constructor
  · cases refused : files.refusal directory with
    | some cause =>
        rw [refused] at coarse
        obtain ⟨causeAgain, refusedAgain, same⟩ := Option.map_eq_some_iff.mp coarse
        rw [refusedAgain]
        simp only [outcome, Except.mapError, GenerateError.coarse, same]
    | none =>
        rw [refused, Option.map_none, Option.map_eq_none_iff] at coarse
        rw [coarse, denials refused]
  · intro unlacking
    rw [exact unlacking]
    cases refused : files.refusal directory with
    | some cause => rfl
    | none => rw [denials refused]

/-- Writing a companion again changes the sort of no place. -/
theorem shape?_again (names : List String) : resultAgain.1.shape? names = after.shape? names := by
  have working : after.working = files.working := keeps.working.trans emits.leaves.working
  obtain ⟨coarse, -⟩ := outcome_again linkFree emits again keeps start isEntry houses
  by_cases isWritten : (∃ path, resultAgain.2 = .ok path) ∧ names = after.placeOf (type.outputPath root language.extension)
  · obtain ⟨written, rfl⟩ := isWritten
    have isFile := FileSystem.shape?_eq_file.mpr ⟨_, again.leaves.file written⟩
    have wasFile := FileSystem.shape?_eq_file.mpr ⟨_, emits.leaves.file ((isOk_of_coarse coarse).mp written)⟩
    rw [← FileSystem.placeOf_congr working] at wasFile
    rw [isFile, keeps.shapes _ (by simp [wasFile]), wasFile]
  · rw [FileSystem.shape?, FileSystem.shape?, again.face?_of_ne fun written same => isWritten ⟨written, same⟩,
      face?_again linkFree emits again keeps start]

end Again

section Below

variable (slashFree : ∀ segment ∈ type.space.segments, '/' ∉ segment.toList)

include slashFree

theorem under_of_slashFree (root : FilePath) : (type.space.under root).isAbsolute = root.isAbsolute ∧
    FileSystem.stepsOf (type.space.under root).text =
      FileSystem.stepsOf root.text ++ type.space.segments.filter (· ≠ "") := by
  obtain ⟨absolute, steps⟩ := FilePath.empty.below_of_slashFree slashFree
  have relative : (FilePath.mk type.space.toPath.text).isAbsolute = false := absolute
  have further : FileSystem.stepsOf type.space.toPath.text = [] ++ type.space.segments.filter (· ≠ "") := steps
  unfold Namespace.under
  refine ⟨root.isAbsolute_join relative, ?_⟩
  rw [root.steps_join relative, further, List.nil_append]

theorem Houses.startOf (houses : type.Houses language root directory) (files : FileSystem) :
    files.startOf directory = files.startOf root :=
  FileSystem.startOf_congr rfl (houses.absolute.trans (under_of_slashFree slashFree root).1)

/-- Where the output root is steady, nothing is missing in front of a file in the way. -/
theorem Houses.not_lacks (houses : type.Houses language root directory) (forward : ".." ∉ type.space.segments)
    (steady : files.Steady root) {front rest : List String} {step : String}
    (split : FileSystem.stepsOf directory.text = front ++ step :: rest)
    (isFile : files.shape? (FileSystem.reach (files.startOf directory) front ++ [step]) = some .file) :
    files.lacks (files.startOf directory) front = false := by
  obtain ⟨dots, -, steps⟩ := houses.steps
  rw [(under_of_slashFree slashFree root).2] at steps
  rw [houses.startOf slashFree] at isFile ⊢
  have along : front ++ step :: rest <+: FileSystem.stepsOf root.text ++ type.space.segments.filter (· ≠ "") := by
    rw [steps, ← split]
    exact List.prefix_append _ _
  exact steady.not_lacks (fun inside => forward (List.mem_filter.mp inside).1) along isFile

end Below

end CompanionType

end Companion
