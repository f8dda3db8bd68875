import Companion.Proofs.Command.Agreement
import Companion.Proofs.FileSystem.Growth

/-!
What `check` foretells of `generate`. Both load the configuration of the project and start the log, with the same outcome
for the same flags. If `check` is content with the configuration, `generate` runs with the settings that were printed, and
fails for its sources or for what came of its round only; and `generate` does not get past a configuration with which
`check` is not content, unless there is no file to be checked.
-/

set_option autoImplicit false

namespace Companion

open Companion.Text (ended)

namespace Workspace

variable (work : Workspace) (config : Log.Config) (environment other : Option String)

@[simp] theorem output_startLog : (work.startLog config environment).1.output = work.output := by
  unfold startLog
  split
  · rfl
  · split <;> rfl

theorem startLog_outcome : (work.startLog config environment).2 = (work.startLog config other).2 := by
  unfold startLog
  cases config.file with
  | none => rfl
  | some path =>
      dsimp only
      rcases openAppendFile work.files path with ⟨files, cause | names⟩ <;> rfl

end Workspace

namespace Command

def Failure.OfConfiguration : Failure → Prop
  | project _ | log _ | generatorSettings _ | noProject | generatorTable _ => True
  | sources .. | unclean .. => False

/-- The request to generate from a directory, with all else left to the configuration. -/
def plainRequest (root : FilePath) : GenerateRequest :=
  ⟨root, none, none, none⟩

namespace Invocation

/-- The call of `check` with the same flags. -/
abbrev checking (invocation : Invocation) : Invocation :=
  { invocation with request := .check }

/-- The call of `generate` with the same flags, which leaves all but its sources to the configuration. -/
abbrev generating (invocation : Invocation) (root : FilePath) : Invocation :=
  { invocation with request := .generate (plainRequest root) }

/-- How a call gets to what it requests: the configuration of the project is loaded, and the log is started as the flags
and the configuration say. -/
structure Starts (invocation : Invocation) (environment : Option String) (work : Workspace) (project : ProjectConfig)
    (start : Workspace) : Prop where
  loads : ProjectConfig.load work.files invocation.configuration = .ok project
  logs : work.startLog (invocation.logConfig project) environment = (start, .ok ())

variable {invocation : Invocation} {environment : Option String} {work start : Workspace} {project : ProjectConfig}

/-- A call gets to what it requests, or fails for its configuration. -/
theorem run_cases (invocation : Invocation) (environment : Option String) (work : Workspace) :
    (∃ project start, invocation.Starts environment work project start ∧
        invocation.run environment work = invocation.perform project start) ∨
      ∃ failure, failure.OfConfiguration ∧ (invocation.run environment work).2 = .error failure := by
  unfold run
  cases loads : ProjectConfig.load work.files invocation.configuration with
  | error cause => exact .inr ⟨.project cause, trivial, rfl⟩
  | ok project =>
      dsimp only
      rcases logs : work.startLog (invocation.logConfig project) environment with ⟨start, cause | _⟩
      · exact .inr ⟨.log cause, trivial, rfl⟩
      · exact .inl ⟨project, start, ⟨loads, logs⟩, rfl⟩

theorem Starts.run_eq (starts : invocation.Starts environment work project start) :
    invocation.run environment work = invocation.perform project start := by
  simp only [run, starts.loads, starts.logs]

/-- Where one call starts, so does every other with the same flags. -/
theorem Starts.again (starts : invocation.Starts environment work project start) (request : Request)
    (other : Option String) :
    ∃ start, Starts { invocation with request := request } other work project start := by
  have outcome := work.startLog_outcome (invocation.logConfig project) other environment
  rw [starts.logs] at outcome
  exact ⟨_, starts.loads, Prod.ext rfl outcome⟩

theorem Starts.output (starts : invocation.Starts environment work project start) : start.output = work.output := by
  have kept := work.output_startLog (invocation.logConfig project) environment
  rwa [starts.logs] at kept

theorem Starts.extends (starts : invocation.Starts environment work project start) : work.files.Extends start.files := by
  have extended := work.extends_startLog (invocation.logConfig project) environment
  rwa [starts.logs] at extended

end Invocation

def roundOver (settings : Settings) (source : Source) (loaded : Workspace) : Round :=
  (Driver.ofSettings settings).run source (loaded.log (.sourcesLoaded source.files.length))

/-- What `generate` comes to with settings, once it has started. Its sources cannot be loaded; or a round runs over them with
the settings, which makes of the files what they are then, and the call fails if something was rejected or failed. -/
inductive Generates (settings : Settings) (root : FilePath) (start : Workspace) : Workspace × Except Failure Unit → Prop
  | unloaded {work : Workspace} {cause : SourceError} (failed : Source.ofDirectory start root = (work, .error cause)) :
      Generates settings root start (work, .error (.sources root cause))
  | clean {loaded work : Workspace} {source : Source} (loads : Source.ofDirectory start root = (loaded, .ok source))
      (files : work.files = (roundOver settings source loaded).work.files)
      (rejected : (roundOver settings source loaded).report.rejected = [])
      (failures : (roundOver settings source loaded).report.failures = []) : Generates settings root start (work, .ok ())
  | unclean {loaded work : Workspace} {source : Source} (loads : Source.ofDirectory start root = (loaded, .ok source))
      (files : work.files = (roundOver settings source loaded).work.files)
      (some : (roundOver settings source loaded).report.rejected ≠ [] ∨
        (roundOver settings source loaded).report.failures ≠ []) :
      Generates settings root start (work, .error (.unclean (roundOver settings source loaded).report.rejected.length
        (roundOver settings source loaded).report.failures.length))

variable {config : Config} {settings : Settings} {work start : Workspace}

theorem override_plainRequest (root : FilePath) (config : Config) : (plainRequest root).override config = config := rfl

theorem generates_of_valid (valid : config.validate = .ok settings) (root : FilePath) (start : Workspace) :
    Generates settings root start (generate (plainRequest root) config start) := by
  unfold generate
  rw [override_plainRequest, valid]
  have asked : (plainRequest root).source = root := rfl
  dsimp only
  rw [asked]
  rcases loads : Source.ofDirectory start root with ⟨loaded, cause | source⟩
  · exact .unloaded loads
  · have files : (generateFrom (plainRequest root) settings source loaded).1.files =
        (roundOver settings source loaded).work.files := by
      simp only [generateFrom, printAll_eq, complainAll_eq, roundOver]
    have outcome : (generateFrom (plainRequest root) settings source loaded).2 =
        if (roundOver settings source loaded).report.isClean then .ok ()
        else .error (.unclean (roundOver settings source loaded).report.rejected.length
          (roundOver settings source loaded).report.failures.length) := rfl
    dsimp only
    generalize generateFrom (plainRequest root) settings source loaded = call at files outcome ⊢
    obtain ⟨done, result⟩ := call
    obtain rfl := outcome
    by_cases isClean : (roundOver settings source loaded).report.rejected = [] ∧
        (roundOver settings source loaded).report.failures = []
    · rw [if_pos (by simp [RoundReport.isClean, isClean])]
      exact .clean loads files isClean.1 isClean.2
    · rw [if_neg (by simpa [RoundReport.isClean] using isClean)]
      exact .unclean loads files (not_and_or.mp isClean)

theorem fails_of_invalid {cause : ConfigError} (invalid : config.validate = .error cause) (root : FilePath)
    (start : Workspace) : (generate (plainRequest root) config start).2 = .error (.generatorSettings cause) := by
  unfold generate
  rw [override_plainRequest, invalid]

/-- What `check` prints when it is content. -/
def approval (path : FilePath) (settings : Settings) (level : Log.Level) : List String :=
  ["Checking config: " ++ path.text, "✓ Generated sources: " ++ settings.outputRoot.text,
    "✓ Annotation: #[" ++ settings.marker ++ "]", "✓ Language: " ++ settings.language.name,
    "✓ Log level: " ++ level.display, "", "Configuration is valid!"]

/-- Whether there is a file to be checked: one is named, or the default one is there. -/
def IsPresent (path : Option FilePath) (files : FileSystem) : Prop :=
  path.isSome = true ∨ files.isFile ProjectConfig.defaultPath = true

variable {path : Option FilePath} {project : ProjectConfig}

theorem IsPresent.mono {files after : FileSystem} (present : IsPresent path files) (extended : files.Extends after) :
    IsPresent path after :=
  present.imp_right extended.isFile

theorem isPresent_iff {files : FileSystem} :
    IsPresent path files ↔ (path.isNone && !files.isFile ProjectConfig.defaultPath) = false := by
  cases path <;> simp [IsPresent]

theorem check_of_valid (present : IsPresent path start.files) (valid : project.generator.validate = .ok settings) :
    check path project start =
      ({ start with output := start.output ++ ended (approval (path.getD ProjectConfig.defaultPath) settings project.log.level) },
        .ok ()) := by
  have conclusion : "\nConfiguration is valid!" = "" ++ "\n" ++ "Configuration is valid!" := rfl
  unfold check
  rw [isPresent_iff.mp present, if_neg Bool.false_ne_true]
  dsimp only
  rw [valid]
  dsimp only
  rw [printAll_eq]
  simp [Workspace.print, summary, approval, String.append_assoc, conclusion]

/-- `check` is content only with a file that is there, and that has good settings. -/
theorem of_check_eq_ok (content : (check path project start).2 = .ok ()) :
    IsPresent path start.files ∧ ∃ settings, project.generator.validate = .ok settings := by
  unfold check at content
  split at content
  · contradiction
  · rename_i present
    dsimp only at content
    split at content
    · contradiction
    · rename_i settings valid
      exact ⟨isPresent_iff.mpr (by simpa using present), settings, valid⟩

/-- A call of `check` succeeds exactly if it starts, with a file that is there and that has good settings. -/
theorem run_checking_eq_ok {invocation : Invocation} {environment : Option String} :
    (invocation.checking.run environment work).2 = .ok () ↔ ∃ project start settings,
      invocation.checking.Starts environment work project start ∧
        IsPresent invocation.configuration start.files ∧ project.generator.validate = .ok settings := by
  constructor
  · intro content
    obtain ⟨project, start, starts, ran⟩ | ⟨failure, -, failed⟩ := invocation.checking.run_cases environment work
    · rw [ran] at content
      obtain ⟨present, settings, valid⟩ := of_check_eq_ok content
      exact ⟨project, start, settings, starts, present, valid⟩
    · rw [failed] at content
      contradiction
  · rintro ⟨project, start, settings, starts, present, valid⟩
    rw [starts.run_eq]
    exact congrArg Prod.snd (check_of_valid present valid)

/-- Whether a call got past its configuration: if it failed, then for another reason. -/
def PastConfiguration (outcome : Except Failure Unit) : Prop :=
  ∀ failure, outcome = .error failure → ¬ failure.OfConfiguration

theorem Generates.pastConfiguration {root : FilePath} {call : Workspace × Except Failure Unit}
    (generates : Generates settings root start call) : PastConfiguration call.2 := by
  rintro failure same
  cases generates <;> cases same <;> exact id

section

variable {invocation : Invocation} {root : FilePath} {earlier environment : Option String}

/-- Where `check` is content, `generate` runs with the settings that were printed. -/
theorem generates_of_content (content : (invocation.checking.run earlier work).2 = .ok ()) :
    ∃ project start settings, (invocation.generating root).Starts environment work project start ∧
      (invocation.checking.run earlier work).1.output = work.output ++
        ended (approval (invocation.configuration.getD ProjectConfig.defaultPath) settings project.log.level) ∧
      Generates settings root start ((invocation.generating root).run environment work) := by
  obtain ⟨project, begun, settings, begins, present, valid⟩ := run_checking_eq_ok.mp content
  obtain ⟨start, starts⟩ := begins.again (.generate (plainRequest root)) environment
  refine ⟨project, start, settings, starts, ?printed, ?generated⟩
  case printed =>
    have checked : invocation.checking.perform project begun = _ := check_of_valid present valid
    rw [begins.run_eq, checked, ← begins.output]
  case generated =>
    rw [starts.run_eq]
    exact generates_of_valid valid root start

/-- Where there is a file to be checked and `generate` gets past its configuration, `check` is content. -/
theorem content_of_past (present : IsPresent invocation.configuration work.files)
    (past : PastConfiguration ((invocation.generating root).run environment work).2) :
    (invocation.checking.run earlier work).2 = .ok () := by
  obtain ⟨project, start, starts, ran⟩ | ⟨failure, ofConfiguration, failed⟩ :=
    (invocation.generating root).run_cases environment work
  · cases validated : project.generator.validate with
    | error cause =>
        rw [ran] at past
        exact absurd trivial (past _ (fails_of_invalid validated root start))
    | ok settings =>
        -- The log may have been opened before the file is looked for, but it does not take the file away.
        obtain ⟨begun, begins⟩ := starts.again .check earlier
        exact run_checking_eq_ok.mpr ⟨project, begun, settings, begins, present.mono begins.extends, validated⟩
  · exact absurd ofConfiguration (past failure failed)

end

/-- How a call of `check` foretells a call of `generate`. If it succeeds, the other runs with the settings that it printed;
and where there is a file to be checked, it succeeds exactly if the other gets past its configuration. -/
structure Foretells (invocation : Invocation) (environment : Option String) (root : FilePath) (work : Workspace)
    (check : Workspace × Nat) (generate : Workspace × Except Failure Unit) : Prop where
  runs : check.2 = 0 → ∃ project start settings, (invocation.generating root).Starts environment work project start ∧
    check.1.output = work.output ++
      ended (approval (invocation.configuration.getD ProjectConfig.defaultPath) settings project.log.level) ∧
    Generates settings root start generate
  agrees : IsPresent invocation.configuration work.files → (check.2 = 0 ↔ PastConfiguration generate.2)

/-- A call of `check` foretells every call of `generate` with the same flags that leaves the rest to the configuration. -/
theorem check_foretells {invocation : Invocation} {root : FilePath} {checking generating : List String}
    (checks : Invocation.ofArguments checking = .ok invocation.checking)
    (generates : Invocation.ofArguments generating = .ok (invocation.generating root))
    (earlier environment : Option String) (work : Workspace) :
    run generating environment work = conclude ((invocation.generating root).run environment work) ∧
      Foretells invocation environment root work (run checking earlier work)
        ((invocation.generating root).run environment work) := by
  refine ⟨run_of_read generates environment work, ?_⟩
  rw [run_of_read checks]
  constructor
  case runs =>
    intro succeeds
    rw [output_conclude]
    exact generates_of_content (status_conclude_eq_zero.mp succeeds)
  case agrees =>
    intro present
    rw [status_conclude_eq_zero]
    constructor
    · intro content
      obtain ⟨_, _, _, -, -, generated⟩ := generates_of_content content
      exact generated.pastConfiguration
    · exact content_of_past present

/-- A project with a configuration, and with a class among its sources. -/
def configured : FileSystem :=
  ⟨.directory [("extractfield.toml", .file "[generator]\ngenerated_dir = \"gen\"\nlanguage = \"kotlin\"\n".toUTF8),
    ("src", .directory [("lib.rs", .file "#[extract_field]struct User\x7bage:u8\x7d".toUTF8)])], [], []⟩

/-- In a project that is configured, `check` succeeds and foretells a generation, also if more is logged of this. -/
theorem check_foretells_configured :
    let invocation : Invocation := ⟨some .warn, some ⟨"logs/run.log"⟩, none, .check⟩
    let checking := ["check", "--log-level", "Warning", "--log-file=logs/run.log"]
    let generating := ["--log-file", "logs/run.log", "generate", "-s", "src", "--log-level=warn"]
    (Invocation.ofArguments checking = .ok invocation.checking ∧
      Invocation.ofArguments generating = .ok (invocation.generating ⟨"src"⟩) ∧
      (run checking none (.ofFiles configured)).2 = 0) ∧
    run generating (some "debug") (.ofFiles configured) =
        conclude ((invocation.generating ⟨"src"⟩).run (some "debug") (.ofFiles configured)) ∧
      Foretells invocation (some "debug") ⟨"src"⟩ (.ofFiles configured) (run checking none (.ofFiles configured))
        ((invocation.generating ⟨"src"⟩).run (some "debug") (.ofFiles configured)) := by
  intro invocation checking generating
  have checks : Invocation.ofArguments checking = .ok invocation.checking := by rfl
  have generates : Invocation.ofArguments generating = .ok (invocation.generating ⟨"src"⟩) := by rfl
  have succeeds : (run checking none (.ofFiles configured)).2 = 0 := by decide +kernel
  exact ⟨⟨checks, generates, succeeds⟩, check_foretells checks generates none (some "debug") (.ofFiles configured)⟩

end Command

end Companion
