import Companion.Round
import Companion.Source.Text

/-!
Generation from a build script. Host options come from the environment of the script, explicit settings go on top of
them, and the script prints directives for the build tool. Nothing is printed and no file is changed unless the
configuration is good and every source file can be loaded.
-/

set_option autoImplicit false

namespace Companion

/-- What a build script asks for. What it leaves open is taken from the host options, or stays at its default. -/
structure Build where
  sourceDirectory : FilePath
  outputDirectory : Option FilePath
  language : Option Language
  marker : Option String
  /-- Whether directives for the build tool are printed. -/
  directives : Bool
  deriving DecidableEq, Repr

/-- A round in which something was rejected or failed, with the numbers of both. -/
structure UncleanRound extends RoundReport where
  rejectedCount : Nat
  failedCount : Nat
  deriving DecidableEq, Repr

instance : Coe UncleanRound RoundReport := ⟨UncleanRound.toRoundReport⟩

inductive BuildError where
  | configuration (cause : ConfigError)
  | source (cause : SourceError)
  /-- The round ran, and something was rejected or failed. -/
  | round (of : UncleanRound)
  deriving DecidableEq, Repr

def BuildError.message : BuildError → String
  | configuration cause => cause.message
  | source cause => cause.message
  | round unclean =>
      "extractfield: " ++ toString unclean.rejectedCount ++ " rejected and " ++ toString unclean.failedCount
        ++ " failed declaration(s)"

namespace Build

def default : Build := ⟨⟨"src"⟩, none, none, none, true⟩

/-- The environment variables that give host options, with the keys of these. -/
def environmentKeys : List (String × String) :=
  [("OUT_DIR", HostOptions.generatedDirectory), ("EXTRACTFIELD_ANNOTATION", HostOptions.marker),
    ("EXTRACTFIELD_LANGUAGE", HostOptions.language)]

def hostOptions (environment : List (String × String)) : HostOptions :=
  environmentKeys.filterMap fun (name, key) =>
    (environment.lookup name).map fun value => (key, value)

/-- Puts the explicit settings on top of a configuration. -/
def override (build : Build) (config : Config) : Config :=
  config.override build.outputDirectory build.marker build.language

def settings (build : Build) (options : HostOptions) : Except ConfigError Settings :=
  match Config.ofOptions options with
  | .error reason => .error reason
  | .ok config => (build.override config).validate

def direct (build : Build) (work : Workspace) (directive : String) : Workspace :=
  if build.directives then work.print ("cargo:" ++ directive) else work

def directAll (build : Build) (work : Workspace) (directives : List String) : Workspace :=
  directives.foldl build.direct work

def dependencies (build : Build) (files : List FilePath) : List String :=
  ["rerun-if-env-changed=EXTRACTFIELD_ANNOTATION", "rerun-if-env-changed=EXTRACTFIELD_LANGUAGE"]
    ++ (build.sourceDirectory :: files).map fun path => "rerun-if-changed=" ++ path.text

def warnings (diagnostics : List Diagnostic) (failures : List Failure) : List String :=
  let lines := diagnostics.flatMap fun diagnostic => Text.lines diagnostic.render
  let causes := failures.map fun failure => failure.declaration ++ ": " ++ failure.error.message
  (lines ++ causes).map fun text => "warning=" ++ text

def generate (build : Build) (settings : Settings) (source : Source) (work : Workspace) :
    Workspace × Except BuildError RoundReport :=
  let work := build.directAll work (build.dependencies source.files)
  let round := (Driver.ofSettings settings).run source work
  let work := build.directAll round.work (warnings round.source.diagnostics round.report.failures)
  let report := round.report
  (work, if report.isClean then .ok report
    else .error (.round ⟨report, report.rejected.length, report.failures.length⟩))

def run (build : Build) (options : HostOptions) (work : Workspace) :
    Workspace × Except BuildError RoundReport :=
  match build.settings options with
  | .error reason => (work, .error (.configuration reason))
  | .ok settings =>
      match Source.ofDirectory work build.sourceDirectory with
      | (work, .error reason) => (work, .error (.source reason))
      | (work, .ok source) => build.generate settings source work

end Build

end Companion
