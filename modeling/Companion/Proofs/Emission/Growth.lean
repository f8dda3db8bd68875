import Companion.Proofs.Emission.Outcome

/-!
Trees that have grown below an output root: directories have come on the way to the root and in directories of names
without a dot below it, and files under names with a dot. Neither is in the way of a companion: what comes of writing it
is the same in such a tree as it was before.
-/

set_option autoImplicit false

namespace Companion

/-- A name that can be a directory of a namespace: as a name of an entry, and without a dot. -/
structure IsPlain (name : String) : Prop where
  ne_empty : name ≠ ""
  dot : '.' ∉ name.toList
  slash : '/' ∉ name.toList
  null : '\x00' ∉ name.toList

theorem isPlain_iff {name : String} :
    IsPlain name ↔ name ≠ "" ∧ '.' ∉ name.toList ∧ '/' ∉ name.toList ∧ '\x00' ∉ name.toList :=
  ⟨fun ⟨a, b, c, d⟩ => ⟨a, b, c, d⟩, fun ⟨a, b, c, d⟩ => ⟨a, b, c, d⟩⟩

instance (name : String) : Decidable (IsPlain name) := decidable_of_iff _ isPlain_iff.symm

theorem IsPlain.isName {name : String} (plain : IsPlain name) : IsName name := by
  refine ⟨plain.ne_empty, ?_, ?_, plain.slash, plain.null⟩ <;>
    · rintro rfl
      exact plain.dot (by decide)

namespace FileSystem

variable {root : FilePath} {before after : FileSystem} {names : List String}

def Made (files : FileSystem) (root : FilePath) (names : List String) : Prop :=
  files.Passed root names ∨
    ∃ segments, (∀ segment ∈ segments, '.' ∉ segment.toList) ∧ names = files.placeOf root ++ segments

def Filed (files : FileSystem) (root : FilePath) (names : List String) : Prop :=
  ¬ files.Passed root names ∧ ∃ segments file, (∀ segment ∈ segments, '.' ∉ segment.toList) ∧ '.' ∈ file.toList ∧
    names = files.placeOf root ++ segments ++ [file]

theorem not_made_of_filed (filed : before.Filed root names) : ¬ before.Made root names := by
  obtain ⟨notPassed, segments, file, -, dot, rfl⟩ := filed
  rintro (passed | ⟨others, plain, same⟩)
  · exact notPassed passed
  · rw [List.append_assoc] at same
    have isOther : file ∈ others := by
      rw [← List.append_cancel_left same]
      simp
    exact plain file isOther dot

/-- What has come between two trees are directories and files at such places. -/
structure Grown (root : FilePath) (before after : FileSystem) : Prop where
  working : after.working = before.working
  shapes : ∀ names, after.shape? names = before.shape? names ∨
    (before.shape? names = none ∧ before.face? (before.startOf root) = some .directory ∧
      ((after.shape? names = some .directory ∧ before.Made root names) ∨
        (after.shape? names = some .file ∧ before.Filed root names)))

namespace Grown

theorem refl (root : FilePath) (files : FileSystem) : Grown root files files :=
  ⟨rfl, fun _ => .inl rfl⟩

/-- What comes besides without changing the sort of any place does not matter. -/
theorem alike (grown : Grown root before after) {next : FileSystem} (working : next.working = after.working)
    (shapes : ∀ names, next.shape? names = after.shape? names) : Grown root before next := by
  refine ⟨working.trans grown.working, fun names => ?_⟩
  rw [shapes names]
  exact grown.shapes names

theorem startOf (grown : Grown root before after) (path : FilePath) : after.startOf path = before.startOf path :=
  startOf_congr grown.working rfl

theorem linkFree (grown : Grown root before after) (linkFree : before.LinkFree) : after.LinkFree := by
  intro names target isLink
  have isLinkShape : after.shape? names = some .link := by simp [shape?, isLink, Node.Face.shape]
  obtain same | ⟨-, -, ⟨isDirectory, -⟩ | ⟨isFile, -⟩⟩ := grown.shapes names
  · rw [isLinkShape] at same
    obtain missing | isFile | isDirectory := shape?_cases linkFree names
    · simp [missing] at same
    · simp [isFile] at same
    · simp [isDirectory] at same
  · simp [isLinkShape] at isDirectory
  · simp [isLinkShape] at isFile

theorem kept (grown : Grown root before after) (something : before.shape? names ≠ none) :
    after.shape? names = before.shape? names := by
  obtain same | ⟨missing, -⟩ := grown.shapes names
  · exact same
  · exact absurd missing something

theorem missing_before (grown : Grown root before after) (missing : after.shape? names = none) :
    before.shape? names = none := by
  by_contra something
  rw [grown.kept something] at missing
  exact something missing

theorem start (grown : Grown root before after) :
    after.shape? (before.startOf root) = before.shape? (before.startOf root) := by
  obtain same | ⟨missing, isDirectory, -⟩ := grown.shapes (before.startOf root)
  · exact same
  · rw [shape?_eq_none, isDirectory] at missing
    contradiction

theorem file_iff (grown : Grown root before after) (made : before.Made root names) :
    after.shape? names = some .file ↔ before.shape? names = some .file := by
  obtain same | ⟨missing, -, ⟨isDirectory, -⟩ | ⟨-, filed⟩⟩ := grown.shapes names
  · rw [same]
  · simp [missing, isDirectory]
  · exact absurd made (not_made_of_filed filed)

end Grown

end FileSystem

open FileSystem (Grown Made Filed OnWay Opens)

def OsError.coarse : OsError → OsError
  | .notDirectory => .alreadyExists
  | other => other

def GenerateError.coarse : GenerateError → GenerateError
  | createDirectory path cause => createDirectory path cause.coarse
  | write path cause => write path cause

theorem isOk_of_coarse {α : Type} {result first : Except GenerateError α}
    (same : result.mapError GenerateError.coarse = first.mapError GenerateError.coarse) :
    (∃ path, result = .ok path) ↔ ∃ path, first = .ok path := by
  cases result <;> cases first <;> simp_all [Except.mapError]

namespace FileSystem

/-- Whether no `..` of a path leads out of a place at which there is nothing. -/
def Steady (files : FileSystem) (root : FilePath) : Prop :=
  ∀ front rest, stepsOf root.text = front ++ ".." :: rest → files.shape? (reach (files.startOf root) front) ≠ none

variable {root directory : FilePath} {before after : FileSystem} {segments dots : List String}

theorem Grown.steady (grown : Grown root before after) (steady : before.Steady root) : after.Steady root := by
  intro front rest steps missing
  rw [grown.startOf] at missing
  exact steady front rest steps (grown.missing_before missing)

/-- A directory below an output root, in directories of names without a dot. -/
structure Lies (root directory : FilePath) (segments : List String) : Prop where
  absolute : directory.isAbsolute = root.isAbsolute
  plain : ∀ segment ∈ segments, '.' ∉ segment.toList
  steps : ∃ dots, (∀ step ∈ dots, step = ".") ∧ stepsOf root.text ++ segments = stepsOf directory.text ++ dots

namespace Lies

variable (lies : Lies root directory segments)

include lies

theorem startOf (files : FileSystem) : files.startOf directory = files.startOf root :=
  startOf_congr rfl lies.absolute

theorem front {front : List String} (isFront : front <+: stepsOf directory.text) :
    front <+: stepsOf root.text ++ segments := by
  obtain ⟨dots, -, steps⟩ := lies.steps
  rw [steps]
  exact isFront.trans (List.prefix_append _ _)

/-- The way to such a directory leads over places at which directories come. -/
theorem made (files : FileSystem) {front : List String} (isFront : front <+: stepsOf directory.text) :
    files.Made root (reach (files.startOf root) front) := by
  obtain inRoot | ⟨others, rfl⟩ := List.prefix_or_prefix_of_prefix (lies.front isFront) (List.prefix_append _ segments)
  · exact .inl ⟨front, inRoot, rfl⟩
  · have inSegments : others <+: segments := (List.prefix_append_right_inj _).mp (lies.front isFront)
    have plain : ∀ segment ∈ others, '.' ∉ segment.toList := fun segment member => lies.plain segment (inSegments.subset member)
    refine .inr ⟨others, plain, ?_⟩
    rw [reach_append, ← placeOf]
    clear inSegments isFront
    generalize files.placeOf root = here
    induction others generalizing here with
    | nil => simp [reach]
    | cons segment others ih =>
        obtain ⟨noDot, rest⟩ := List.forall_mem_cons.mp plain
        have notCurrent : segment ≠ "." := by
          rintro rfl
          exact noDot (by decide)
        have notParent : segment ≠ ".." := by
          rintro rfl
          exact noDot (by decide)
        have further := ih rest (here ++ [segment])
        simpa [reach, advance, notCurrent, notParent] using further

theorem made_of_onWay {files : FileSystem} {names : List String} (onWay : files.OnWay directory names) :
    files.Made root names := by
  obtain ⟨front, isFront, rfl⟩ := onWay.onClear
  rw [lies.startOf]
  exact lies.made files (isFront.trans (files.clear_isFront _ _))

/-- Where the directory can be made, all that the output root passes is on the way. -/
theorem onWay_of_passed {files : FileSystem} (granted : files.refusal directory = none)
    (start : files.face? (files.startOf root) = some .directory) {names : List String} (passed : files.Passed root names) :
    files.OnWay directory names := by
  obtain ⟨front, isFront, rfl⟩ := passed
  obtain ⟨dots, stay, steps⟩ := lies.steps
  have along : front <+: stepsOf directory.text ++ dots := by
    rw [← steps]
    exact isFront.trans (List.prefix_append _ _)
  rw [← lies.startOf] at start ⊢
  have isClear : flaw? directory = none ∧
      files.clear (files.startOf directory) (stepsOf directory.text) = stepsOf directory.text := by
    unfold refusal at granted
    split at granted
    · rename_i empty
      rw [flaw?, empty, FilePath.steps_empty]
      exact ⟨by decide, rfl⟩
    · split at granted
      · cases granted
      · rename_i flawless
        rw [shape?_eq_directory.mpr start] at granted
        exact ⟨flawless, obstacle_eq_none.mp granted⟩
  refine ⟨isClear.1, start, (onClear_stay isClear.2 stay _).mpr ⟨front, ?_, rfl⟩⟩
  rwa [clear_append isClear.2, clear_of_stay stay]

variable (grown : Grown root before after)

include grown

theorem clear_eq : after.clear (after.startOf directory) (stepsOf directory.text) =
    before.clear (before.startOf directory) (stepsOf directory.text) := by
  rw [grown.startOf]
  refine clear_congr fun front isFront => ?_
  rw [lies.startOf]
  exact grown.file_iff (lies.made before isFront)

theorem start_iff : after.face? (after.startOf directory) = some .directory ↔
    before.face? (before.startOf directory) = some .directory := by
  rw [grown.startOf, lies.startOf, ← shape?_eq_directory, ← shape?_eq_directory,
    grown.start]

theorem onWay_iff {names : List String} : after.OnWay directory names ↔ before.OnWay directory names := by
  have same : after.OnClear (after.startOf directory) (stepsOf directory.text) names ↔
      before.OnClear (before.startOf directory) (stepsOf directory.text) names := by
    unfold OnClear
    rw [lies.clear_eq grown, grown.startOf]
  exact ⟨fun onWay => ⟨onWay.flawless, (lies.start_iff grown).mp onWay.start, same.mp onWay.onClear⟩,
    fun onWay => ⟨onWay.flawless, (lies.start_iff grown).mpr onWay.start, same.mpr onWay.onClear⟩⟩

/-- A directory is refused in a tree that has grown as it was before, but for the causes that a file in the way can
have. -/
theorem refusal_coarse : (after.refusal directory).map OsError.coarse = (before.refusal directory).map OsError.coarse := by
  have start : after.shape? (after.startOf directory) = before.shape? (before.startOf directory) := by
    rw [grown.startOf, lies.startOf, grown.start]
  unfold refusal
  rw [start]
  split
  · rfl
  · split
    · rfl
    · split
      · rfl
      · unfold obstacle
        rw [lies.clear_eq grown]
        split
        · rfl
        · split
          · rfl
          · split <;> split <;> rfl
      · rfl

end Lies

/-- Behind a place at which there is nothing there is nothing, unless the way leads back. -/
theorem missing_behind {files : FileSystem} {here more : List String} (missing : files.shape? here = none)
    (forward : ".." ∉ more) : files.shape? (reach here more) = none := by
  induction more generalizing here with
  | nil => exact missing
  | cons step more ih =>
      obtain ⟨notParent, rest⟩ := not_or.mp (mt List.mem_cons.mpr forward)
      by_cases isCurrent : step = "."
      · simpa [reach, advance, isCurrent] using ih missing rest
      · have next := advance_name isCurrent (Ne.symm notParent) here
        have further := ih (shape?_below missing step) rest
        simpa [reach, next] using further

/-- Where no `..` leads out of a place at which there is nothing, a file in the way has nothing missing in front of it. -/
theorem Steady.not_lacks {files : FileSystem} (steady : files.Steady root) {front rest : List String} {step : String}
    (forward : ".." ∉ segments) (along : front ++ step :: rest <+: stepsOf root.text ++ segments)
    (isFile : files.shape? (reach (files.startOf root) front ++ [step]) = some .file) :
    files.lacks (files.startOf root) front = false := by
  rw [Bool.eq_false_iff]
  intro lacks
  obtain ⟨some, ⟨more, rfl⟩, missing⟩ := lacks_eq_true.mp lacks
  -- The first `..` behind the missing place would be one of the output root.
  have onwards : ".." ∉ more := by
    intro back
    obtain ⟨ahead, behind, rfl, notAhead⟩ := List.eq_append_cons_of_mem back
    obtain ⟨others, whole⟩ := along
    have atBack : (some ++ ahead) ++ ".." :: (behind ++ step :: rest ++ others) = stepsOf root.text ++ segments := by
      rw [← whole]
      simp
    have ofRoot : ∃ after, stepsOf root.text = (some ++ ahead) ++ ".." :: after := by
      obtain ⟨between, split, inSegments⟩ | ⟨between, inRoot, split⟩ := List.append_eq_append_iff.mp atBack
      · cases between with
        | nil =>
            have isSegment : ".." ∈ segments := by
              rw [List.nil_append] at inSegments
              simp [← inSegments]
            exact absurd isSegment forward
        | cons first between =>
            obtain ⟨rfl, -⟩ := List.cons.inj inSegments
            exact ⟨between, split⟩
      · exact absurd (by simp [split]) forward
    obtain ⟨after, ofRoot⟩ := ofRoot
    refine steady _ _ ofRoot ?_
    rw [reach_append]
    exact missing_behind missing notAhead
  rw [reach_append] at isFile
  have nothing := shape?_below (missing_behind missing onwards) step
  rw [nothing] at isFile
  contradiction

/-- Where the output root is steady, a directory is refused for the same cause. -/
theorem Lies.refusal_eq (lies : Lies root directory segments) (grown : Grown root before after)
    (steady : before.Steady root) (forward : ".." ∉ segments) :
    after.refusal directory = before.refusal directory := by
  have start : after.shape? (after.startOf directory) = before.shape? (before.startOf directory) := by
    rw [grown.startOf, lies.startOf, grown.start]
  unfold refusal
  rw [start]
  split
  · rfl
  · split
    · rfl
    · split
      · rfl
      · have here := grown.startOf directory
        have sameClear := lies.clear_eq grown
        by_cases isClear : before.clear (before.startOf directory) (stepsOf directory.text) = stepsOf directory.text
        · rw [obstacle_of_clear isClear, obstacle_of_clear (sameClear.trans isClear)]
        · obtain ⟨step, rest, split, stops⟩ := exists_stop isClear
          rw [here] at sameClear ⊢
          rw [lies.startOf] at split stops sameClear ⊢
          obtain ⟨front, beforeClear⟩ : ∃ front, before.clear (before.startOf root) (stepsOf directory.text) = front := ⟨_, rfl⟩
          rw [beforeClear] at split stops sameClear
          have whole := lies.front (List.prefix_refl _)
          have stopsAfter : after.passes (reach (before.startOf root) front) step = false := by
            have isFront : front ++ [step] <+: stepsOf directory.text := ⟨rest, by simp [split]⟩
            have made := lies.made before isFront
            rw [reach_snoc] at made
            rw [← stops, passes_congr (grown.file_iff made)]
          rw [split] at sameClear beforeClear whole ⊢
          rw [obstacle_of_stop sameClear, obstacle_of_stop beforeClear]
          split
          · rfl
          · rename_i fits
            have isFile := file_of_not_passes stops (Nat.le_of_not_lt fits)
            have isFileAfter := file_of_not_passes stopsAfter (Nat.le_of_not_lt fits)
            rw [← grown.startOf] at isFileAfter
            have none := steady.not_lacks forward whole isFile
            have noneAfter := (grown.steady steady).not_lacks forward whole isFileAfter
            rw [grown.startOf] at noneAfter
            rw [none, noneAfter]
      · rfl

theorem Opens.start {files made : FileSystem} (opens : files.Opens (files.OnWay directory) made) :
    made.shape? (made.startOf directory) = files.shape? (files.startOf directory) := by
  rw [startOf_congr opens.working rfl]
  obtain same | ⟨missing, onWay, -⟩ := opens.face (files.startOf directory)
  · rw [shape?, shape?, same]
  · rw [onWay.start] at missing
    contradiction

end FileSystem

namespace CompanionType

variable {type : CompanionType} {language : Language} {root directory : FilePath} {before after : FileSystem}

/-- A companion whose modules have plain names, and that has a name with a dot for its file. -/
structure IsPlain (type : CompanionType) (language : Language) : Prop where
  segments : ∀ segment ∈ type.space.segments, Companion.IsPlain segment
  isName : IsName (type.fileName language.extension)
  dot : '.' ∈ (type.fileName language.extension).toList

namespace IsPlain

variable (plain : type.IsPlain language)

include plain

theorem areNames : ∀ name ∈ type.space.segments ++ [type.fileName language.extension], IsName name := by
  intro name member
  obtain isSegment | isFile := List.mem_append.mp member
  · exact (plain.segments name isSegment).isName
  · rw [List.mem_singleton.mp isFile]
    exact plain.isName

theorem outputPath_eq_below (root : FilePath) : type.outputPath root language.extension =
    root.below (type.space.segments ++ [type.fileName language.extension]) :=
  type.outputPath_eq (fun segment member => (plain.segments segment member).isName.isStep)
    (FilePath.isAbsolute_of_slashFree plain.isName.slash)

theorem placeOf_eq (files : FileSystem) (root : FilePath) : files.placeOf (type.outputPath root language.extension) =
    files.placeOf root ++ type.space.segments ++ [type.fileName language.extension] := by
  rw [plain.outputPath_eq_below, FileSystem.placeOf_below files root plain.areNames, List.append_assoc]

theorem lies (houses : type.Houses language root directory) : FileSystem.Lies root directory type.space.segments := by
  have areSteps := areSteps_of_areNames plain.areNames
  have absolute := FilePath.isAbsolute_below root areSteps
  have steps := FilePath.steps_below root areSteps
  rw [← plain.outputPath_eq_below, isAbsolute_outputPath plain.isName.isEntry] at absolute
  rw [← plain.outputPath_eq_below, steps_outputPath plain.isName.isEntry, ← List.append_assoc] at steps
  obtain ⟨dots, stay, split⟩ := houses.steps
  have under := (List.append_inj' steps rfl).1
  exact ⟨houses.absolute.trans absolute, fun segment member => (plain.segments segment member).dot, dots, stay,
    under.symm.trans split⟩

/-- A file can come at the place of a companion unless the output root passes it. -/
theorem filed {files : FileSystem}
    (notPassed : ¬ files.Passed root (files.placeOf (type.outputPath root language.extension))) :
    files.Filed root (files.placeOf (type.outputPath root language.extension)) :=
  ⟨notPassed, _, _, fun segment member => (plain.segments segment member).dot, plain.dot, plain.placeOf_eq files root⟩

/-- Where directories come, no companion is, unless the output root passes its place. -/
theorem passed_of_made {files : FileSystem}
    (made : files.Made root (files.placeOf (type.outputPath root language.extension))) :
    files.Passed root (files.placeOf (type.outputPath root language.extension)) := by
  by_contra notPassed
  exact FileSystem.not_made_of_filed (plain.filed notPassed) made

section Denial

variable {made earlier : FileSystem} (grown : Grown root before after)
  (houses : type.Houses language root directory) (opens : after.Opens (after.OnWay directory) made)
  (earlierOpens : before.Opens (before.OnWay directory) earlier) (granted : before.refusal directory = none)

include grown houses opens earlierOpens granted

/-- Once the directories have been made, there is a directory at the place of a companion in a tree that has grown if
there is one in the tree as it was before. -/
theorem directory_iff (start : before.face? (before.startOf root) = some .directory) :
    made.shape? (made.placeOf (type.outputPath root language.extension)) = some .directory ↔
      earlier.shape? (earlier.placeOf (type.outputPath root language.extension)) = some .directory := by
  have lies := plain.lies houses
  rw [FileSystem.placeOf_congr opens.working, FileSystem.placeOf_congr earlierOpens.working,
    FileSystem.placeOf_congr grown.working, FileSystem.shape?_eq_directory, FileSystem.shape?_eq_directory]
  have onWay_of_made : before.Made root (before.placeOf (type.outputPath root language.extension)) →
      before.OnWay directory (before.placeOf (type.outputPath root language.extension)) := fun isMade =>
    lies.onWay_of_passed granted start (plain.passed_of_made isMade)
  generalize before.placeOf (type.outputPath root language.extension) = place at onWay_of_made ⊢
  constructor
  · intro isDirectory
    by_cases something : before.shape? place = none
    · have missing := FileSystem.shape?_eq_none.mp something
      refine earlierOpens.made place missing (onWay_of_made ?_)
      obtain same | ⟨-, onWay, -⟩ := opens.face place
      · rw [same, ← FileSystem.shape?_eq_directory] at isDirectory
        obtain unchanged | ⟨-, -, ⟨-, isMade⟩ | ⟨isFile, -⟩⟩ := grown.shapes place
        · rw [isDirectory, something] at unchanged
          contradiction
        · exact isMade
        · rw [isDirectory] at isFile
          contradiction
      · exact lies.made_of_onWay ((lies.onWay_iff grown).mp onWay)
    · have sameAfter := grown.kept something
      have somethingAfter : after.shape? place ≠ none := sameAfter ▸ something
      rw [opens.kept place (.inl (mt FileSystem.shape?_eq_none.mpr somethingAfter)), ← FileSystem.shape?_eq_directory,
        sameAfter, FileSystem.shape?_eq_directory] at isDirectory
      rw [earlierOpens.kept place (.inl (mt FileSystem.shape?_eq_none.mpr something)), isDirectory]
  · intro isDirectory
    obtain same | ⟨missing, onWay, -⟩ := earlierOpens.face place
    · rw [same, ← FileSystem.shape?_eq_directory] at isDirectory
      have something : before.shape? place ≠ none := by simp [isDirectory]
      have sameAfter := grown.kept something
      rw [isDirectory, FileSystem.shape?_eq_directory] at sameAfter
      rw [opens.kept place (.inl (by simp [sameAfter])), sameAfter]
    · have onWayAfter := (lies.onWay_iff grown).mpr onWay
      obtain unchanged | ⟨-, -, ⟨isDirectoryAfter, -⟩ | ⟨-, filed⟩⟩ := grown.shapes place
      · rw [FileSystem.shape?_eq_none.mpr missing, FileSystem.shape?_eq_none] at unchanged
        exact opens.made place unchanged onWayAfter
      · have there := FileSystem.shape?_eq_directory.mp isDirectoryAfter
        rw [opens.kept place (.inl (by simp [there])), there]
      · exact absurd (lies.made_of_onWay onWay) (FileSystem.not_made_of_filed filed)

theorem denial_eq : made.denial (type.outputPath root language.extension) (type.fileName language.extension) =
    earlier.denial (type.outputPath root language.extension) (type.fileName language.extension) := by
  have lies := plain.lies houses
  have start : made.shape? (made.startOf (type.outputPath root language.extension)) =
      earlier.shape? (earlier.startOf (type.outputPath root language.extension)) := by
    rw [startOf_outputPath plain.isName.isEntry houses, startOf_outputPath plain.isName.isEntry houses, opens.start, earlierOpens.start,
      grown.startOf, lies.startOf, grown.start]
  unfold FileSystem.denial
  rw [start]
  split
  · rfl
  · split
    · rfl
    · rename_i isDirectory
      rw [startOf_outputPath plain.isName.isEntry houses, earlierOpens.start, lies.startOf, FileSystem.shape?_eq_directory]
        at isDirectory
      have same := plain.directory_iff grown houses opens earlierOpens granted isDirectory
      simp only [same]
    · rfl

end Denial

variable (grown : Grown root before after) (houses : type.Houses language root directory)

include grown houses

/-- What is reported of a companion in a tree that has grown is what was reported in the tree as it was before, but for
the causes that a file in the way can have; and if the output root is steady, without exception. -/
theorem emit_outcome {made earlier : FileSystem} {result first : FileSystem × Except GenerateError FilePath}
    (emits : type.Emits language root directory after made result)
    (earlierEmits : type.Emits language root directory before earlier first) :
    result.2.mapError GenerateError.coarse = first.2.mapError GenerateError.coarse ∧
      (before.Steady root → result.2 = first.2) := by
  have lies := plain.lies houses
  have coarse := lies.refusal_coarse grown
  rw [emits.outcome, earlierEmits.outcome]
  have denials : before.refusal directory = none → made.denial (type.outputPath root language.extension)
      (type.fileName language.extension) = earlier.denial (type.outputPath root language.extension)
        (type.fileName language.extension) :=
    plain.denial_eq grown houses emits.opens earlierEmits.opens
  constructor
  · cases refused : before.refusal directory with
    | some cause =>
        rw [refused] at coarse
        obtain ⟨causeAfter, refusedAfter, same⟩ := Option.map_eq_some_iff.mp coarse
        rw [refusedAfter]
        simp only [outcome, Except.mapError, GenerateError.coarse, same]
    | none =>
        rw [refused, Option.map_none, Option.map_eq_none_iff] at coarse
        rw [coarse, denials refused]
  · intro steady
    have forward : ".." ∉ type.space.segments := fun member => (plain.segments _ member).dot (by decide)
    rw [lies.refusal_eq grown steady forward]
    cases refused : before.refusal directory with
    | some cause => rfl
    | none => rw [denials refused]

/-- The attempt to write a companion lets a tree grow further. -/
theorem grown_emit (linkFree : before.LinkFree) {made : FileSystem} {result : FileSystem × Except GenerateError FilePath}
    (emits : type.Emits language root directory after made result) : Grown root before result.1 := by
  have lies := plain.lies houses
  have afterLinkFree := grown.linkFree linkFree
  have samePlace := congrFun (FileSystem.placeOf_congr grown.working) (type.outputPath root language.extension)
  refine ⟨emits.leaves.working.trans grown.working, fun names => ?_⟩
  by_cases isWritten : (∃ path, result.2 = .ok path) ∧ names = after.placeOf (type.outputPath root language.extension)
  · obtain ⟨written, rfl⟩ := isWritten
    have isFile := FileSystem.shape?_eq_file.mpr ⟨_, emits.leaves.file written⟩
    obtain ⟨path, ok⟩ := written
    rw [emits.outcome] at ok
    obtain ⟨granted, allowed⟩ := outcome_ok ok
    obtain ⟨notDirectory, start⟩ := denial_of_directory allowed
    rw [FileSystem.placeOf_congr emits.opens.working] at notDirectory
    rw [startOf_outputPath plain.isName.isEntry houses, ← FileSystem.shape?_eq_directory, emits.opens.start,
      FileSystem.shape?_eq_directory, lies.start_iff grown, lies.startOf] at start
    obtain missing | wasFile | isDirectory := FileSystem.shape?_cases afterLinkFree
      (after.placeOf (type.outputPath root language.extension))
    · have startAfter : after.face? (after.startOf root) = some .directory := by
        rw [grown.startOf, ← FileSystem.shape?_eq_directory, grown.start, FileSystem.shape?_eq_directory]
        exact start
      have notPassed : ¬ after.Passed root (after.placeOf (type.outputPath root language.extension)) := fun passed =>
        notDirectory (emits.opens.made _ (FileSystem.shape?_eq_none.mp missing)
          (lies.onWay_of_passed granted startAfter passed))
      rw [FileSystem.passed_congr grown.working, samePlace] at notPassed
      refine .inr ⟨grown.missing_before missing, start, .inr ⟨isFile, ?_⟩⟩
      rw [samePlace]
      exact plain.filed notPassed
    · rw [isFile.trans wasFile.symm]
      exact grown.shapes _
    · have there := FileSystem.shape?_eq_directory.mp isDirectory
      have unchanged := emits.opens.kept (after.placeOf (type.outputPath root language.extension)) (.inl (by simp [there]))
      exact absurd (unchanged.trans there) notDirectory
  · have elsewhere : (∃ path, result.2 = .ok path) → names ≠ after.placeOf (type.outputPath root language.extension) :=
      fun written same => isWritten ⟨written, same⟩
    by_cases isMade : after.face? names = none ∧ after.OnWay directory names
    · obtain ⟨missing, onWay⟩ := isMade
      have before_onWay := (lies.onWay_iff grown).mp onWay
      have start := before_onWay.start
      rw [lies.startOf] at start
      exact .inr ⟨grown.missing_before (FileSystem.shape?_eq_none.mpr missing), start,
        .inl ⟨FileSystem.shape?_eq_directory.mpr (emits.leaves.made names missing onWay), lies.made_of_onWay before_onWay⟩⟩
    · have same := emits.leaves.kept names elsewhere (not_and_or.mp isMade)
      have sameShape : result.1.shape? names = after.shape? names := by rw [FileSystem.shape?, FileSystem.shape?, same]
      rw [sameShape]
      exact grown.shapes names

end IsPlain

end CompanionType

end Companion
