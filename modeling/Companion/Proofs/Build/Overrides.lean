import Companion.Build

/-!
Explicit settings and host options. What a build sets itself counts, and what the options say of it does not, with one
exception: the language among the options is read before anything is set, so a language that cannot be read is an error
also where the build sets the language itself.
-/

set_option autoImplicit false

namespace Companion

namespace HostOptions

def flaw? (options : HostOptions) : Option ConfigError :=
  match options.lookup language with
  | none => none
  | some name =>
      match Language.read name with
      | .ok _ => none
      | .error unknown => some (.unknownLanguage unknown)

def language? (options : HostOptions) : Option Language :=
  (options.lookup language).bind fun name => (Language.read name).toOption

theorem flaw?_of_unknown {options : HostOptions} {name unknown : String} (given : options.lookup language = some name)
    (unread : Language.read name = .error unknown) : options.flaw? = some (.unknownLanguage unknown) := by
  unfold flaw?
  rw [given]
  dsimp only
  rw [unread]

theorem exists_of_flaw? {options : HostOptions} {reason : ConfigError} (flawed : options.flaw? = some reason) :
    ∃ name unknown, options.lookup language = some name ∧ Language.read name = .error unknown ∧
      reason = .unknownLanguage unknown := by
  unfold flaw? at flawed
  cases given : options.lookup language with
  | none => rw [given] at flawed; cases flawed
  | some name =>
      rw [given] at flawed
      dsimp only at flawed
      generalize read : Language.read name = answer at flawed
      cases answer with
      | ok language => cases flawed
      | error unknown => exact ⟨name, unknown, rfl, read, (Option.some.inj flawed).symm⟩

end HostOptions

namespace Config

theorem applyPaths_eq (config : Config) (options : HostOptions) :
    config.applyPaths options =
      ⟨((options.lookup HostOptions.generatedDirectory).map FilePath.mk).or config.generatedDirectory,
        (options.lookup HostOptions.marker).getD config.marker, config.language⟩ := by
  unfold applyPaths
  cases options.lookup HostOptions.generatedDirectory <;> cases options.lookup HostOptions.marker <;> rfl

/-- Host options set what they have a value for. They are refused for a language that cannot be read, and set the rest all
the same. -/
theorem applyOptions_eq (config : Config) (options : HostOptions) :
    config.applyOptions options =
      (⟨((options.lookup HostOptions.generatedDirectory).map FilePath.mk).or config.generatedDirectory,
        (options.lookup HostOptions.marker).getD config.marker, options.language?.getD config.language⟩,
        options.flaw?) := by
  unfold applyOptions HostOptions.language? HostOptions.flaw?
  rw [applyPaths_eq]
  cases options.lookup HostOptions.language with
  | none => rfl
  | some name =>
      dsimp only [Option.bind_some]
      cases Language.read name <;> rfl

end Config

namespace Build

variable (build : Build) (options : HostOptions)

def directoryFrom : Option FilePath :=
  build.outputDirectory.or ((options.lookup HostOptions.generatedDirectory).map FilePath.mk)

def markerFrom : String :=
  build.marker.getD ((options.lookup HostOptions.marker).getD Config.defaultMarker)

/-- The language that counts, if the one among the options can be read. -/
def languageFrom : Language :=
  build.language.getD (options.language?.getD .rust)

theorem settings_of_flaw {reason : ConfigError} (flawed : options.flaw? = some reason) :
    build.settings options = .error reason := by
  simp only [settings, Config.ofOptions, Config.applyOptions_eq, flawed]

/-- Where the language among the options can be read, the settings come from the values that count. -/
theorem settings_of_flawless (flawless : options.flaw? = none) :
    build.settings options =
      (Config.mk (build.directoryFrom options) (build.markerFrom options) (build.languageFrom options)).validate := by
  simp only [settings, Config.ofOptions, Config.applyOptions_eq, flawless, Config.default, Option.or_none]
  rfl

/-- A configuration is refused for its directory or for its marker, and never for its language. -/
theorem validate_ne_unknown (config : Config) (name : String) : config.validate ≠ .error (.unknownLanguage name) := by
  unfold Config.validate
  split
  · simp
  · split
    · simp
    · split <;> simp

/-- Where the language among the options can be read, no build fails for a language. -/
theorem run_ne_unknown {options : HostOptions} (flawless : options.flaw? = none) (work : Workspace) (name : String) :
    (build.run options work).2 ≠ .error (.configuration (.unknownLanguage name)) := by
  unfold run
  rw [build.settings_of_flawless options flawless]
  split
  · rename_i reason refused
    intro same
    obtain rfl : reason = .unknownLanguage name := by simpa using same
    exact validate_ne_unknown _ name refused
  · split
    · simp
    · unfold generate
      dsimp only
      split <;> simp

/-- Options that differ in nothing but what a build sets itself. -/
structure Agree (build : Build) (options other : HostOptions) : Prop where
  directory : build.outputDirectory = none →
    options.lookup HostOptions.generatedDirectory = other.lookup HostOptions.generatedDirectory
  marker : build.marker = none → options.lookup HostOptions.marker = other.lookup HostOptions.marker
  language : build.language = none → options.lookup HostOptions.language = other.lookup HostOptions.language

namespace Agree

variable {build : Build} {options other : HostOptions} (agree : build.Agree options other)

include agree

theorem directoryFrom : build.directoryFrom options = build.directoryFrom other := by
  unfold Build.directoryFrom
  cases given : build.outputDirectory with
  | some path => rfl
  | none => rw [agree.directory given]

theorem markerFrom : build.markerFrom options = build.markerFrom other := by
  unfold Build.markerFrom
  cases given : build.marker with
  | some tag => rfl
  | none => rw [agree.marker given]

theorem languageFrom : build.languageFrom options = build.languageFrom other := by
  unfold Build.languageFrom HostOptions.language?
  cases given : build.language with
  | some language => rfl
  | none => rw [agree.language given]

theorem settings_eq (same : options.flaw? = other.flaw?) : build.settings options = build.settings other := by
  cases flawed : options.flaw? with
  | some reason =>
      rw [build.settings_of_flaw options flawed, build.settings_of_flaw other (same ▸ flawed)]
  | none =>
      rw [build.settings_of_flawless options flawed, build.settings_of_flawless other (same ▸ flawed),
        agree.directoryFrom, agree.markerFrom, agree.languageFrom]

end Agree

theorem run_of_flaw {options : HostOptions} {reason : ConfigError} (flawed : options.flaw? = some reason)
    (work : Workspace) : build.run options work = (work, .error (.configuration reason)) := by
  simp only [run, build.settings_of_flaw options flawed]

variable {build}

/-- Options that differ in nothing but what a build sets itself lead to the same result, the same output and the same
files, exactly if the language among them is refused alike. -/
theorem run_eq_iff {options other : HostOptions} (agree : build.Agree options other) (work : Workspace) :
    build.run options work = build.run other work ↔ options.flaw? = other.flaw? := by
  constructor
  · intro same
    cases flawed : options.flaw? with
    | some reason =>
        obtain ⟨_, unknown, -, -, rfl⟩ := HostOptions.exists_of_flaw? flawed
        rw [build.run_of_flaw flawed] at same
        cases otherFlawed : other.flaw? with
        | some otherReason =>
            rw [build.run_of_flaw otherFlawed] at same
            simpa using same
        | none => exact absurd (congrArg Prod.snd same).symm (build.run_ne_unknown otherFlawed work unknown)
    | none =>
        cases otherFlawed : other.flaw? with
        | none => rfl
        | some otherReason =>
            obtain ⟨_, unknown, -, -, rfl⟩ := HostOptions.exists_of_flaw? otherFlawed
            rw [build.run_of_flaw otherFlawed] at same
            exact absurd (congrArg Prod.snd same) (build.run_ne_unknown flawed work unknown)
  · intro same
    unfold run
    rw [agree.settings_eq same]

/-- A build that sets its directory and language is refused for a language among the options that is not known. -/
theorem run_eq_iff_unknown :
    let build : Build := { Build.default with outputDirectory := some ⟨"gen"⟩, language := some .kotlin }
    build.Agree [("extractfield.language", "cobol")] [("extractfield.generated", "")] ∧
      (build.run [("extractfield.language", "cobol")] (.ofFiles .empty) =
          build.run [("extractfield.generated", "")] (.ofFiles .empty) ↔
        HostOptions.flaw? [("extractfield.language", "cobol")] = HostOptions.flaw? [("extractfield.generated", "")]) ∧
      HostOptions.flaw? [("extractfield.language", "cobol")] ≠ HostOptions.flaw? [("extractfield.generated", "")] := by
  intro build
  have agree : build.Agree [("extractfield.language", "cobol")] [("extractfield.generated", "")] :=
    ⟨by simp [build], fun _ => rfl, by simp [build]⟩
  exact ⟨agree, run_eq_iff agree (.ofFiles .empty), by decide⟩

end Build

end Companion
