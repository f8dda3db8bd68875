import Companion.Proofs.Round.Effects
import Companion.Proofs.Source.Loading

/-!
Where the companions of a loaded tree are written. The namespace of a class leads below the output root by names of
directories, with one exception: the part of a file name in front of the extension can be `.` or `..`, which is no name.
-/

set_option autoImplicit false

namespace Companion

open FileSystem (Changes)

def Declaration.file? (declaration : Declaration) : Option FilePath :=
  declaration.location.map (·.file)

/-- Whether the companion of a declaration is written to a path of names below the output root. -/
def Source.StaysBelow (source : Source) (settings : Settings) (declaration : Declaration) : Prop :=
  ∃ names, names ≠ [] ∧ (∀ name ∈ names, IsName name) ∧
    source.pathOf settings declaration = settings.outputRoot.below names

namespace Declaration.LoadedFrom

variable {root : FilePath} {directories : List String} {stem : String} {declaration : Declaration} {source : Source}
  {settings : Settings}

theorem file?_eq (loaded : declaration.LoadedFrom root directories stem) :
    declaration.file? = some (root.below (directories ++ [stem ++ ".rs"])) := by
  obtain ⟨place, location⟩ := loaded.location
  rw [file?, location]
  rfl

theorem fileName?_eq (loaded : declaration.LoadedFrom root directories stem) {file : FilePath}
    (isFile : declaration.file? = some file) : file.fileName? = some (stem ++ ".rs") := by
  obtain rfl : root.below (directories ++ [stem ++ ".rs"]) = file :=
    Option.some_inj.mp (loaded.file?_eq.symm.trans isFile)
  rw [FilePath.fileName?_below root (areEntries_of_areNames loaded.areNames) (by simp), List.getLast?_concat]

theorem isName_fileName (loaded : declaration.LoadedFrom root directories stem) :
    IsName ((source.companion declaration).fileName settings.language.extension) :=
  Companion.isName_fileName loaded.name.isName.slash loaded.name.isName.null

theorem isName_rustFile (loaded : declaration.LoadedFrom root directories stem) : IsName (stem ++ ".rs") :=
  loaded.areNames _ (by simp)

theorem areNames_directories (loaded : declaration.LoadedFrom root directories stem) :
    ∀ name ∈ directories, IsName name :=
  fun name member => loaded.areNames name (List.mem_append_left _ member)

/-- The steps from the output root: the directories, the name of the file, the modules in it, and the companion. -/
theorem namesOf_eq (loaded : declaration.LoadedFrom root directories stem) (source : Source) (settings : Settings) :
    ∃ inner, inner ≠ [] ∧ (∀ name ∈ inner, IsName name) ∧
      source.namesOf settings declaration = directories ++ (Namespace.stemSegment stem ++ inner) := by
  obtain ⟨modules, areIdentifiers, segments⟩ := loaded.modules
  refine ⟨modules ++ [(source.companion declaration).fileName settings.language.extension], by simp, ?_, ?_⟩
  · intro name member
    obtain isModule | isFile := List.mem_append.mp member
    · exact (areIdentifiers name isModule).isName
    · exact List.mem_singleton.mp isFile ▸ loaded.isName_fileName
  · simp [Source.namesOf, segments]

theorem areSteps (loaded : declaration.LoadedFrom root directories stem) (source : Source) (settings : Settings) :
    ∀ step ∈ source.namesOf settings declaration, IsStep step := by
  obtain ⟨inner, -, areNames, steps⟩ := loaded.namesOf_eq source settings
  intro step member
  rw [steps, List.mem_append, List.mem_append] at member
  obtain inDirectories | inStem | inInner := member
  · exact (loaded.areNames_directories step inDirectories).isStep
  · exact mem_stemSegment inStem ▸ isStep_stem loaded.isName_rustFile loaded.someStem
  · exact (areNames step inInner).isStep

theorem pathOf_eq (loaded : declaration.LoadedFrom root directories stem) :
    source.pathOf settings declaration = settings.outputRoot.below (source.namesOf settings declaration) :=
  have isName : IsName ((source.companion declaration).fileName settings.language.extension) := loaded.isName_fileName
  (source.companion declaration).outputPath_eq
    (fun segment member => loaded.areSteps source settings segment (List.mem_append_left _ member))
    (FilePath.isAbsolute_of_slashFree isName.slash)

/-- A companion stays below the output root exactly if the name of its file is in no way special. -/
theorem staysBelow_iff (loaded : declaration.LoadedFrom root directories stem) :
    source.StaysBelow settings declaration ↔ stem ++ ".rs" ∉ dotFiles := by
  obtain ⟨inner, someInner, areNames, steps⟩ := loaded.namesOf_eq source settings
  have stem_iff := areNames_stemSegment_iff loaded.isName_rustFile loaded.someStem
  constructor
  · rintro ⟨names, -, areOutputNames, path⟩
    have same : source.namesOf settings declaration = names :=
      settings.outputRoot.below_injective (loaded.areSteps source settings) (areSteps_of_areNames areOutputNames)
        (loaded.pathOf_eq.symm.trans path)
    refine stem_iff.mp fun segment member => areOutputNames segment ?_
    rw [← same, steps]
    exact List.mem_append_right _ (List.mem_append_left _ member)
  · intro ordinary
    refine ⟨source.namesOf settings declaration, by simp [steps, someInner], ?_, loaded.pathOf_eq⟩
    intro name member
    rw [steps, List.mem_append, List.mem_append] at member
    obtain inDirectories | inStem | inInner := member
    · exact loaded.areNames_directories name inDirectories
    · exact stem_iff.mpr ordinary name inStem
    · exact areNames name inInner

theorem file?_eq_parentFile_iff (loaded : declaration.LoadedFrom root directories stem) :
    declaration.file? = some (root.join "...rs") ↔ directories = [] ∧ stem = ".." := by
  have only : root.join "...rs" = root.below ["...rs"] := rfl
  rw [loaded.file?_eq, only, Option.some_inj]
  constructor
  · intro same
    have names := root.below_injective (areSteps_of_areNames loaded.areNames) (areSteps_of_areNames (by decide)) same
    obtain ⟨rfl, last⟩ := List.append_eq_singleton_iff.mp names |>.resolve_right (by simp)
    exact ⟨rfl, (String.append_left_inj ".rs").mp (List.singleton_inj.mp last)⟩
  · rintro ⟨rfl, rfl⟩
    rfl

/-- A companion is placed below the output root unless its file is `...rs`, directly below the source root: the parent
of a directory that leads to its file is still below the output root. -/
theorem placeOf_pathOf (loaded : declaration.LoadedFrom root directories stem)
    (ordinary : declaration.file? ≠ some (root.join "...rs")) (files : FileSystem) :
    ∃ inner, inner ≠ [] ∧
      files.placeOf (source.pathOf settings declaration) = files.placeOf settings.outputRoot ++ inner := by
  obtain ⟨inner, someInner, areNames, steps⟩ := loaded.namesOf_eq source settings
  have lead : ∃ front, FileSystem.reach (files.placeOf settings.outputRoot ++ directories)
      (Namespace.stemSegment stem) = files.placeOf settings.outputRoot ++ front := by
    by_cases isDot : stem ++ ".rs" ∈ dotFiles
    · obtain rfl | rfl := mem_dotFiles_iff.mp isDot
      · exact ⟨directories, rfl⟩
      · have someDirectories : directories ≠ [] := fun none => ordinary (loaded.file?_eq_parentFile_iff.mpr ⟨none, rfl⟩)
        exact ⟨directories.dropLast, List.dropLast_append_of_ne_nil someDirectories⟩
    · have isName := (areNames_stemSegment_iff loaded.isName_rustFile loaded.someStem).mpr isDot
      exact ⟨_, by rw [FileSystem.reach_names _ isName, List.append_assoc]⟩
  obtain ⟨front, lead⟩ := lead
  refine ⟨front ++ inner, by simp [someInner], ?_⟩
  rw [loaded.pathOf_eq, FileSystem.placeOf_below_steps _ _ (loaded.areSteps source settings), steps,
    FileSystem.reach_append, FileSystem.reach_append, FileSystem.reach_names _ loaded.areNames_directories, lead,
    FileSystem.reach_names _ areNames, List.append_assoc]

theorem pathOf_of_parentFile (loaded : declaration.LoadedFrom root directories stem)
    (parentFile : declaration.file? = some (root.join "...rs")) :
    ∃ inner, inner ≠ [] ∧ (∀ name ∈ inner, IsName name) ∧
      source.pathOf settings declaration = settings.outputRoot.below (".." :: inner) := by
  obtain ⟨inner, someInner, areNames, steps⟩ := loaded.namesOf_eq source settings
  obtain ⟨rfl, rfl⟩ := loaded.file?_eq_parentFile_iff.mp parentFile
  have isSegment : Namespace.stemSegment ".." = [".."] := rfl
  refine ⟨inner, someInner, areNames, ?_⟩
  rw [loaded.pathOf_eq, steps, isSegment]
  rfl

end Declaration.LoadedFrom

variable {root : FilePath} {source : Source} {work : Workspace}

theorem Source.LoadedBelow.declarationsWith {marker : String} (loaded : source.LoadedBelow root)
    {declaration : Declaration} (member : declaration ∈ source.declarationsWith marker)
    (isClass : declaration.kind.isClassLike = true) :
    ∃ directories stem, declaration.LoadedFrom root directories stem := by
  obtain ⟨entry, isEntry, rfl⟩ := List.mem_map.mp member
  exact loaded entry (List.mem_filter.mp isEntry).1 (by simpa [DeclarationKind.isClassLike] using isClass)

namespace Driver

theorem logsTo_run (driver : Driver) (source : Source) (work : Workspace) :
    (driver.run source work).work.LogsTo = work.LogsTo := by
  by_cases nothing : source.declarationsWith driver.settings.marker = []
  · rw [run_of_nothing nothing, Workspace.logsTo_log]
  · obtain ⟨event, ran⟩ := run_of_some driver work nothing
    rw [ran, Workspace.logsTo_log, logsTo_attempts, Source.logsTo_begun]

def Inside (driver : Driver) (files : FileSystem) (names : List String) : Prop :=
  ∃ inner, inner ≠ [] ∧ names = files.placeOf driver.settings.outputRoot ++ inner

/-- A round over a loaded tree writes below the output root only, if no class stands in the file `...rs`. -/
theorem run_changes_inside (driver : Driver) (loaded : source.LoadedBelow root)
    (ordinary : ∀ declaration ∈ source.marked driver.settings.marker, declaration.file? ≠ some (root.join "...rs"))
    (linkFree : work.files.LinkFree) :
    Changes (fun _ => True) (fun names => work.LogsTo names ∨ driver.Inside work.files names) work.files
      (driver.run source work).work.files := by
  have namesFiles : source.NamesFiles driver.settings (source.declarationsWith driver.settings.marker) :=
    fun declaration member isClass =>
      have ⟨_, _, origin⟩ := loaded.declarationsWith member isClass
      origin.isName_fileName
  refine (driver.run_changes namesFiles linkFree).mono (fun _ _ => trivial) ?_
  rintro names (logs | ⟨attempt, member, path, written, rfl⟩)
  · exact .inl logs
  · obtain ⟨isFound, isClass⟩ := declaration_of_mem_attempts member
    obtain ⟨directories, stem, origin⟩ := loaded.declarationsWith isFound isClass
    rw [Attempt.written?_eq written]
    exact .inr (origin.placeOf_pathOf (ordinary _ (List.mem_filter.mpr ⟨isFound, isClass⟩)) work.files)

/-- So do any number of rounds, since they keep the declarations and the settings. -/
theorem rounds_changes_inside (driver : Driver) (loaded : source.LoadedBelow root)
    (ordinary : ∀ declaration ∈ source.marked driver.settings.marker, declaration.file? ≠ some (root.join "...rs"))
    (linkFree : work.files.LinkFree) (count : Nat) :
    Changes (fun _ => True) (fun names => work.LogsTo names ∨ driver.Inside work.files names) work.files
        (driver.rounds source work count).work.files ∧
      (driver.rounds source work count).work.LogsTo = work.LogsTo := by
  induction count with
  | zero => exact ⟨.refl _, rfl⟩
  | succ count ih =>
      obtain ⟨before, sameLog⟩ := ih
      obtain ⟨sameSettings, sameSource⟩ := rounds_source driver source work count
      have stillLoaded : (driver.rounds source work count).source.LoadedBelow root := by
        rw [sameSource]
        exact loaded
      have stillOrdinary : ∀ declaration ∈ (driver.rounds source work count).source.marked
          (driver.rounds source work count).driver.settings.marker, declaration.file? ≠ some (root.join "...rs") := by
        rw [sameSettings, sameSource]
        exact ordinary
      have next := (driver.rounds source work count).driver.run_changes_inside stillLoaded stillOrdinary
        (before.linkFree linkFree)
      refine ⟨before.trans (next.mono (fun _ _ => trivial) ?_), ?_⟩
      · rintro names (logs | ⟨inner, someInner, place⟩)
        · exact .inl (sameLog ▸ logs)
        · refine .inr ⟨inner, someInner, ?_⟩
          rw [place, sameSettings, FileSystem.placeOf_congr before.working]
      · rw [rounds, logsTo_run, sameLog]

/-- Where the companions of a loaded tree are written. The path of one consists of names below the output root exactly
if it does not stand in a file `..rs` or `...rs`. If no class stands in the file `...rs` of the source root itself, then
however many rounds change no file outside the output root but the log; for a class that does, the path leads to the
parent of the output root. -/
theorem rounds_confined {loading : Workspace} (named : loading.files.NamesBelow root)
    (loaded : (Source.ofDirectory loading root).2 = .ok source) (driver : Driver) :
    (∀ declaration ∈ source.marked driver.settings.marker,
      source.StaysBelow driver.settings declaration ↔
        ∀ file, declaration.file? = some file → file.fileName? ≠ some "..rs" ∧ file.fileName? ≠ some "...rs") ∧
    ((∀ declaration ∈ source.marked driver.settings.marker, declaration.file? ≠ some (root.join "...rs")) →
      ∀ work : Workspace, work.files.LinkFree → ∀ count names, ¬ driver.Inside work.files names → ¬ work.LogsTo names →
        ∀ content, (driver.rounds source work count).work.files.face? names = some (.file content) ↔
          work.files.face? names = some (.file content)) ∧
    (∀ declaration ∈ source.marked driver.settings.marker, declaration.file? = some (root.join "...rs") →
      ∃ inner, inner ≠ [] ∧ (∀ name ∈ inner, IsName name) ∧
        source.pathOf driver.settings declaration = driver.settings.outputRoot.below (".." :: inner)) := by
  have loadedBelow := Source.loadedBelow_of_ofDirectory named loaded
  have origin : ∀ declaration ∈ source.marked driver.settings.marker,
      ∃ directories stem, declaration.LoadedFrom root directories stem := fun declaration member =>
    have ⟨isFound, isClass⟩ := List.mem_filter.mp member
    loadedBelow.declarationsWith isFound isClass
  refine ⟨fun declaration member => ?_, fun ordinary work linkFree count names outside noLog content => ?_,
    fun declaration member parentFile => ?_⟩
  · obtain ⟨directories, stem, origin⟩ := origin declaration member
    rw [origin.staysBelow_iff]
    constructor
    · intro ordinary file isFile
      rw [origin.fileName?_eq isFile]
      simpa [dotFiles] using ordinary
    · intro ordinary
      obtain ⟨notCurrent, notParent⟩ := ordinary _ origin.file?_eq
      rw [origin.fileName?_eq origin.file?_eq] at notCurrent notParent
      simp_all [dotFiles]
  · obtain ⟨changes, -⟩ := driver.rounds_changes_inside loadedBelow ordinary linkFree count
    refine changes.file_iff ?_ content
    rintro (logs | inside)
    · exact noLog logs
    · exact outside inside
  · obtain ⟨directories, stem, origin⟩ := origin declaration member
    exact origin.pathOf_of_parentFile parentFile

/-- A source root with one class, in a file `...rs`. -/
def parentFileTree : Workspace :=
  .ofFiles ⟨.directory [("src", .directory [("...rs", .file "#[extract_field]struct User;".toUTF8)])], [], []⟩

/-- The companion of that class is written beside the output root. -/
theorem rounds_confined_parentFileTree :
    ∃ source, (Source.ofDirectory parentFileTree ⟨"src"⟩).2 = .ok source ∧
      ∃ declaration ∈ source.marked "extract_field",
        source.pathOf ⟨⟨"gen"⟩, "extract_field", .kotlin⟩ declaration = ⟨"gen/../ExtractFieldUser.kt"⟩ ∧
        ¬ source.StaysBelow ⟨⟨"gen"⟩, "extract_field", .kotlin⟩ declaration := by
  have read : (Source.ofDirectory parentFileTree ⟨"src"⟩).2.toOption.map (fun source =>
        (source.marked "extract_field").map fun declaration =>
          (declaration.file?, source.pathOf ⟨⟨"gen"⟩, "extract_field", .kotlin⟩ declaration)) =
      some [(some ⟨"src/...rs"⟩, ⟨"gen/../ExtractFieldUser.kt"⟩)] := by
    decide +kernel
  have named : parentFileTree.files.NamesBelow ⟨"src"⟩ := by
    rintro _ ⟨⟩
    exact ⟨by decide, trivial, trivial⟩
  obtain ⟨source, loaded, files⟩ := Option.map_eq_some_iff.mp read
  replace loaded := Syntax.ok_of_toOption loaded
  obtain ⟨declaration, others, same, isFirst, -⟩ := List.map_eq_cons_iff.mp files
  have member : declaration ∈ source.marked "extract_field" := by simp [same]
  obtain ⟨isFile, path⟩ := Prod.mk.inj isFirst
  obtain ⟨staysBelow_iff, -, -⟩ := rounds_confined named loaded (.ofSettings ⟨⟨"gen"⟩, "extract_field", .kotlin⟩)
  refine ⟨source, loaded, declaration, member, path, fun below => ?_⟩
  have ordinary := (staysBelow_iff declaration member).mp below _ isFile
  exact absurd (by decide) ordinary.2

end Driver

end Companion
