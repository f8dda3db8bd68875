import Companion.Proofs.Build.Overrides
import Companion.Proofs.Source.Faults

/-!
The stages of a build: its configuration, its sources, its round. A build ends at the first stage that fails, and until
the round nothing is printed and no file is changed; behind the round, the report decides.
-/

set_option autoImplicit false

namespace Companion

namespace Config

/-- A configuration is accepted exactly if it has an output directory, and an identifier for its marker. -/
theorem validate_eq_ok_iff {config : Config} {settings : Settings} :
    config.validate = .ok settings ↔ ∃ path, config.generatedDirectory = some path ∧ path.text ≠ "" ∧
      Naming.isIdentifier config.marker = true ∧ settings = ⟨path, config.marker, config.language⟩ := by
  unfold validate
  split
  · rename_i missing
    simp [missing]
  · rename_i path given
    simp only [given, Option.some.injEq, exists_eq_left']
    by_cases empty : path.text = ""
    · simp [empty]
    · by_cases isIdentifier : Naming.isIdentifier config.marker = true
      · simp only [String.isEmpty_iff, empty, isIdentifier, if_true, if_false, Except.ok.injEq, ne_eq, not_false_eq_true,
          true_and]
        exact eq_comm
      · simp [empty, isIdentifier]

end Config

namespace Build

variable {build : Build} {options : HostOptions} {work : Workspace}

/-- Whether a build is configured: the language among the options can be read, there is an output directory, and the
marker is an identifier. -/
structure Configured (build : Build) (options : HostOptions) : Prop where
  language : ∀ name, options.lookup HostOptions.language = some name → ∃ language, Language.read name = .ok language
  directory : ∃ path, build.directoryFrom options = some path ∧ path.text ≠ ""
  marker : Naming.isIdentifier (build.markerFrom options) = true

theorem flaw?_eq_none : options.flaw? = none ↔
    ∀ name, options.lookup HostOptions.language = some name → ∃ language, Language.read name = .ok language := by
  constructor
  · intro flawless name given
    cases read : Language.read name with
    | ok language => exact ⟨language, rfl⟩
    | error unknown =>
        rw [HostOptions.flaw?_of_unknown given read] at flawless
        cases flawless
  · intro readable
    cases flawed : options.flaw? with
    | none => rfl
    | some reason =>
        obtain ⟨name, unknown, given, unread, -⟩ := HostOptions.exists_of_flaw? flawed
        obtain ⟨language, read⟩ := readable name given
        rw [unread] at read
        cases read

theorem settings_eq_ok_iff {settings : Settings} : build.settings options = .ok settings ↔
    options.flaw? = none ∧ Naming.isIdentifier (build.markerFrom options) = true ∧
      ∃ path, build.directoryFrom options = some path ∧ path.text ≠ "" ∧
        settings = ⟨path, build.markerFrom options, build.languageFrom options⟩ := by
  cases flawed : options.flaw? with
  | some reason => simp [build.settings_of_flaw options flawed]
  | none =>
      rw [build.settings_of_flawless options flawed, Config.validate_eq_ok_iff]
      constructor
      · rintro ⟨path, given, nonempty, isIdentifier, same⟩
        exact ⟨rfl, isIdentifier, path, given, nonempty, same⟩
      · rintro ⟨-, isIdentifier, path, given, nonempty, same⟩
        exact ⟨path, given, nonempty, isIdentifier, same⟩

theorem configured_iff : build.Configured options ↔ ∃ settings, build.settings options = .ok settings := by
  constructor
  · rintro ⟨language, ⟨path, given, nonempty⟩, marker⟩
    exact ⟨_, settings_eq_ok_iff.mpr ⟨flaw?_eq_none.mpr language, marker, path, given, nonempty, rfl⟩⟩
  · rintro ⟨settings, accepted⟩
    obtain ⟨flawless, marker, path, given, nonempty, -⟩ := settings_eq_ok_iff.mp accepted
    exact ⟨flaw?_eq_none.mp flawless, ⟨path, given, nonempty⟩, marker⟩

theorem run_of_unconfigured (unconfigured : ¬ build.Configured options) (work : Workspace) :
    ∃ reason, build.run options work = (work, .error (.configuration reason)) := by
  cases accepted : build.settings options with
  | error reason => exact ⟨reason, by simp only [run, accepted]⟩
  | ok settings => exact absurd (configured_iff.mpr ⟨settings, accepted⟩) unconfigured

/-- Whether the sources of a build can be loaded: they are in a directory, all directories from there on can be listed, and
none of the Rust files is at fault. -/
structure Loadable (build : Build) (files : FileSystem) : Prop where
  directory : files.isDirectory build.sourceDirectory = true
  passable : Source.Passable files build.sourceDirectory (files.stopsBelow build.sourceDirectory)

/-- The error of sources that cannot be loaded: there is no directory, or it is that of what stands first among the directories
that cannot be listed and the Rust files at fault. -/
inductive Faulty (build : Build) (files : FileSystem) : SourceError → Prop
  | notDirectory (isOther : files.isDirectory build.sourceDirectory = false) :
      Faulty build files (.notDirectory build.sourceDirectory)
  | directory (isDirectory : files.isDirectory build.sourceDirectory = true)
      {earlier later : List (List String × Node.Face)} {names : List String} {cause : OsError}
      (stands : files.stopsBelow build.sourceDirectory = earlier ++ (names, .directory) :: later)
      (passable : Source.Passable files build.sourceDirectory earlier)
      (refused : files.list (build.sourceDirectory.below names) = .error cause) :
      Faulty build files (.unwalkable ⟨build.sourceDirectory.below names, cause⟩)
  | file (isDirectory : files.isDirectory build.sourceDirectory = true)
      {earlier later : List (List String × Node.Face)} {names : List String} {content : ByteArray} {reason : SourceError}
      (stands : files.stopsBelow build.sourceDirectory = earlier ++ (names, .file content) :: later)
      (passable : Source.Passable files build.sourceDirectory earlier)
      (isRustFile : Source.isRustFile (build.sourceDirectory.below names) = true)
      (fault : Source.fault? files (build.sourceDirectory.below names) = some reason)
      (named : reason.path = build.sourceDirectory.below names) : Faulty build files reason

theorem faulty_of_faultAt? (isDirectory : work.files.isDirectory build.sourceDirectory = true)
    {earlier later : List (List String × Node.Face)} {stop : List String × Node.Face} {reason : SourceError}
    (stands : work.files.stopsBelow build.sourceDirectory = earlier ++ stop :: later)
    (passable : Source.Passable work.files build.sourceDirectory earlier)
    (fault : Source.faultAt? work.files build.sourceDirectory stop = some reason) : build.Faulty work.files reason := by
  obtain ⟨names, face⟩ := stop
  cases face with
  | file content =>
      obtain ⟨isRustFile, faulty⟩ : Source.isRustFile (build.sourceDirectory.below names) = true ∧
          Source.fault? work.files (build.sourceDirectory.below names) = some reason := by
        simpa [Source.faultAt?] using fault
      exact .file isDirectory stands passable isRustFile faulty (Source.path_of_fault? faulty)
  | link target => contradiction
  | directory =>
      cases listed : work.files.list (build.sourceDirectory.below names) with
      | error cause =>
          obtain rfl : .unwalkable ⟨_, cause⟩ = reason := by simpa [Source.faultAt?, listed] using fault
          exact .directory isDirectory stands passable listed
      | ok entries => simp [Source.faultAt?, listed] at fault

theorem Faulty.not_loadable {reason : SourceError} (faulty : build.Faulty work.files reason) :
    ¬ build.Loadable work.files := by
  intro loadable
  have passed := Source.passable_iff.mp loadable.passable
  cases faulty with
  | notDirectory isOther => simp [loadable.directory] at isOther
  | directory isDirectory stands passable refused =>
      have listable := Source.faultAt?_directory_eq_none_iff.mp (passed _ (stands ▸ List.mem_append_cons_self))
      exact FileSystem.not_listable refused listable
  | file isDirectory stands passable isRustFile fault named =>
      have faultless := Source.faultAt?_file_eq_none_iff.mp (passed _ (stands ▸ List.mem_append_cons_self)) isRustFile
      rw [faultless] at fault
      contradiction

theorem loaded_or_faulty (build : Build) (elsewhere : work.LogsElsewhere) :
    (build.Loadable work.files ∧ ∃ source, (Source.ofDirectory work build.sourceDirectory).2 = .ok source) ∨
      ∃ reason, build.Faulty work.files reason ∧
        (Source.ofDirectory work build.sourceDirectory).2 = .error reason := by
  obtain ⟨-, outcome⟩ := Source.ofDirectory_faults elsewhere build.sourceDirectory
  cases isDirectory : work.files.isDirectory build.sourceDirectory with
  | false =>
      rw [isDirectory] at outcome
      exact .inr ⟨_, .notDirectory isDirectory, by simpa using outcome⟩
  | true =>
      rw [isDirectory, if_pos rfl] at outcome
      split at outcome
      · rename_i reason first
        obtain ⟨earlier, stop, later, stands, fault, passed⟩ := List.findSome?_eq_some_iff.mp first
        exact .inr ⟨reason, faulty_of_faultAt? isDirectory stands (Source.passable_iff.mpr passed) fault, outcome⟩
      · rename_i none
        obtain ⟨source, loaded⟩ := outcome
        exact .inl ⟨⟨isDirectory, Source.passable_iff.mpr (List.findSome?_eq_none_iff.mp none)⟩, source, loaded⟩

@[simp] theorem files_directAll (build : Build) (work : Workspace) (directives : List String) :
    (build.directAll work directives).files = work.files := by
  induction directives generalizing work with
  | nil => rfl
  | cons directive others ih =>
      refine (ih (build.direct work directive)).trans ?_
      unfold direct
      split <;> rfl

theorem logsElsewhere_directAll (elsewhere : work.LogsElsewhere) (build : Build) (directives : List String) :
    (build.directAll work directives).LogsElsewhere := by
  induction directives generalizing work with
  | nil => exact elsewhere
  | cons directive others ih =>
      have next : (build.direct work directive).LogsElsewhere := by
        unfold direct
        split <;> exact elsewhere
      exact ih next

/-- What a build comes to behind a round: the report if it is clean, and otherwise an error with the report and the
numbers of what was rejected and what failed. -/
inductive Judged (report : RoundReport) : Except BuildError RoundReport → Prop
  | clean (rejected : report.rejected = []) (failures : report.failures = []) : Judged report (.ok report)
  | unclean (some : report.rejected ≠ [] ∨ report.failures ≠ []) :
      Judged report (.error (.round ⟨report, report.rejected.length, report.failures.length⟩))

theorem judged_generate (build : Build) (settings : Settings) (source : Source) (work : Workspace) :
    let round := (Driver.ofSettings settings).run source (build.directAll work (build.dependencies source.files))
    (build.generate settings source work).1.files = round.work.files ∧
      Judged round.report (build.generate settings source work).2 := by
  intro round
  refine ⟨build.files_directAll _ _, ?_⟩
  have outcome : (build.generate settings source work).2 = if round.report.isClean then .ok round.report
      else .error (.round ⟨round.report, round.report.rejected.length, round.report.failures.length⟩) := rfl
  rw [outcome]
  by_cases isClean : round.report.rejected = [] ∧ round.report.failures = []
  · rw [if_pos (by simp [RoundReport.isClean, isClean])]
    exact .clean isClean.1 isClean.2
  · rw [if_neg (by simpa [RoundReport.isClean] using isClean)]
    exact .unclean (not_and_or.mp isClean)

/-- How a build ends. A configuration error is told exactly if the build is not configured, and a source error exactly if
it is and its sources cannot be loaded; either way nothing was printed and no file changed. Otherwise the round ran, from
the files as they were, and the build ends as its report says. -/
structure Ends (build : Build) (options : HostOptions) (work : Workspace) : Prop where
  configuration : (∃ reason, (build.run options work).2 = .error (.configuration reason)) ↔ ¬ build.Configured options
  source : (∃ reason, (build.run options work).2 = .error (.source reason)) ↔
    build.Configured options ∧ ¬ build.Loadable work.files
  first : ∀ reason, (build.run options work).2 = .error (.source reason) → build.Faulty work.files reason
  untouched : ¬ (build.Configured options ∧ build.Loadable work.files) →
    (build.run options work).1.files = work.files ∧ (build.run options work).1.output = work.output
  round : build.Configured options → build.Loadable work.files → ∃ settings source start,
    build.settings options = .ok settings ∧ (Source.ofDirectory work build.sourceDirectory).2 = .ok source ∧
      source.files = (work.files.filesBelow build.sourceDirectory).filter Source.isRustFile ∧ start.files = work.files ∧
      let round := (Driver.ofSettings settings).run source start
      (build.run options work).1.files = round.work.files ∧ Judged round.report (build.run options work).2

theorem run_cases (build : Build) (options : HostOptions) (elsewhere : work.LogsElsewhere) :
    (¬ build.Configured options ∧ ∃ reason, build.run options work = (work, .error (.configuration reason))) ∨
      (build.Configured options ∧ ∃ reason, build.Faulty work.files reason ∧ build.run options work =
        ((Source.ofDirectory work build.sourceDirectory).1, .error (.source reason))) ∨
      (build.Configured options ∧ build.Loadable work.files ∧ ∃ settings source,
        build.settings options = .ok settings ∧ (Source.ofDirectory work build.sourceDirectory).2 = .ok source ∧
        build.run options work =
          build.generate settings source (Source.ofDirectory work build.sourceDirectory).1) := by
  by_cases configured : build.Configured options
  · obtain ⟨settings, accepted⟩ := configured_iff.mp configured
    refine .inr ?_
    unfold run
    rw [accepted]
    dsimp only
    rw [← Prod.eta (Source.ofDirectory work build.sourceDirectory)]
    obtain ⟨loadable, source, loaded⟩ | ⟨reason, faulty, failed⟩ := build.loaded_or_faulty elsewhere
    · exact .inr ⟨configured, loadable, settings, source, rfl, loaded, by rw [loaded]⟩
    · exact .inl ⟨configured, reason, faulty, by rw [failed]⟩
  · exact .inl ⟨configured, run_of_unconfigured configured work⟩

/-- Every build that does not log into the tree of files ends at its first stage that fails, or with its round. -/
theorem run_ends (build : Build) (options : HostOptions) (work : Workspace) (elsewhere : work.LogsElsewhere) :
    build.Ends options work := by
  obtain ⟨unconfigured, reason, ran⟩ | ⟨configured, reason, faulty, ran⟩ |
    ⟨configured, loadable, settings, source, accepted, loaded, ran⟩ := build.run_cases options elsewhere
  · constructor <;> simp [ran, unconfigured]
  · have unloadable := faulty.not_loadable
    obtain ⟨files, -⟩ := Source.ofDirectory_faults elsewhere build.sourceDirectory
    constructor
    · simp [ran, configured]
    · simp [ran, configured, unloadable]
    · intro other same
      obtain rfl : reason = other := by simpa [ran] using same
      exact faulty
    · intro _
      rw [ran]
      exact ⟨files, Source.output_ofDirectory work build.sourceDirectory⟩
    · intro _ loadable
      exact absurd loadable unloadable
  · obtain ⟨sameFiles, -⟩ := Source.ofDirectory_faults elsewhere build.sourceDirectory
    obtain ⟨files, judged⟩ := build.judged_generate settings source (Source.ofDirectory work build.sourceDirectory).1
    rw [← ran] at files judged
    have noError : ∀ error, (∀ unclean, error ≠ .round unclean) → (build.run options work).2 ≠ .error error := by
      intro error other same
      rw [same] at judged
      cases judged with
      | unclean _ => exact other _ rfl
    constructor
    · exact ⟨fun ⟨_, same⟩ => absurd same (noError _ (by simp)), fun unconfigured => absurd configured unconfigured⟩
    · exact ⟨fun ⟨_, same⟩ => absurd same (noError _ (by simp)), fun ⟨_, unloadable⟩ => absurd loadable unloadable⟩
    · exact fun _ same => absurd same (noError _ (by simp))
    · exact fun failed => absurd ⟨configured, loadable⟩ failed
    · have whole : source.files = (work.files.filesBelow build.sourceDirectory).filter Source.isRustFile := by
        obtain ⟨-, walked, -⟩ := Source.addFiles_of_ofDirectory loaded
        rw [Source.files_of_ofDirectory loaded, Source.rustFiles, FileSystem.files_walk_of_whole walked]
      exact fun _ _ => ⟨settings, source, _, accepted, loaded, whole, (build.files_directAll _ _).trans sameFiles, files,
        judged⟩

def toGen : HostOptions := [("extractfield.generated", "gen")]

/-- Sources of which the second file and the third are no Rust sources. -/
def torn : Workspace :=
  .ofFiles ⟨.directory [("src", .directory [("a.rs", .file "#[extract_field] struct A;".toUTF8),
    ("b.rs", .file "struct".toUTF8), ("c.rs", .file "enum".toUTF8)])], [], []⟩

/-- Sources with two classes and an enumeration that carry the marker, and a file where a directory would be made for one of
the companions. -/
def hindered : Workspace :=
  .ofFiles ⟨.directory [("gen", .directory [("app", .file ByteArray.empty)]), ("src", .directory
    [("app.rs", .file "#[extract_field] struct Other;".toUTF8),
      ("lib.rs", .file "#[extract_field] struct User\x7bage: u8\x7d #[extract_field] enum Choice\x7bYes\x7d".toUTF8)])], [], []⟩

/-- A build ends at the first file that is no Rust source; or with a round that has generated one companion, rejected one
declaration and failed at another. -/
theorem run_ends_torn_hindered :
    (Build.default.Ends toGen torn ∧ (Build.default.run toGen torn).2 =
      .error (.source (.unparsable ⟨"src/b.rs"⟩ ⟨1, 1⟩ "unexpected end of input, expected identifier"))) ∧
    Build.default.Ends toGen hindered ∧ (Build.default.run toGen hindered).2 =
      .error (.round ⟨⟨true, [⟨"gen/ExtractFieldUser.rs"⟩], ["Choice"],
        [⟨"app.Other", .createDirectory ⟨"gen/app"⟩ .alreadyExists⟩]⟩, 1, 1⟩) :=
  ⟨⟨run_ends Build.default toGen torn (Workspace.logsElsewhere_ofFiles _), by decide +kernel⟩,
    run_ends Build.default toGen hindered (Workspace.logsElsewhere_ofFiles _), by decide +kernel⟩

def sealed : Workspace :=
  .ofFiles ⟨.directory [("src", .directory [("app", .emptyDirectory), ("lib.rs", .file "#[extract_field] struct User;".toUTF8)])],
    [], [["src", "app"]]⟩

/-- It is not the source directory and its Rust files alone that decide whether sources can be loaded. -/
theorem source_error_not_only_of_files :
    ¬ ∀ (build : Build) (options : HostOptions) (work : Workspace), work.LogsElsewhere →
      ((∃ reason, (build.run options work).2 = .error (.source reason)) ↔ build.Configured options ∧
        ¬ (work.files.isDirectory build.sourceDirectory = true ∧
          ∀ path ∈ (work.files.filesBelow build.sourceDirectory).filter Source.isRustFile,
            Source.fault? work.files path = none)) := by
  intro claimed
  have ran : (Build.default.run toGen sealed).2 = .error (.source (.unwalkable ⟨⟨"src/app"⟩, .permissionDenied⟩)) := by
    decide +kernel
  have faultless : ∀ path ∈ (sealed.files.filesBelow ⟨"src"⟩).filter Source.isRustFile,
      Source.fault? sealed.files path = none := by
    decide +kernel
  exact ((claimed Build.default toGen sealed (Workspace.logsElsewhere_ofFiles _)).mp ⟨_, ran⟩).2 ⟨rfl, faultless⟩

end Build

end Companion
