import Companion.Command.Arguments
import Companion.ProjectConfig
import Companion.Round
import Companion.Source.Text

set_option autoImplicit false

namespace Companion.Command

inductive Failure where
  | project (cause : ProjectConfigError)
  | log (cause : LogError)
  | generatorSettings (cause : ConfigError)
  | sources (root : FilePath) (cause : SourceError)
  | unclean (rejected failed : Nat)
  | noProject
  | generatorTable (cause : ConfigError)
  deriving DecidableEq, Repr

namespace Failure

def sourceMessage (error : SourceError) : String :=
  match error with
  | .unreadable _ cause => error.message ++ ": " ++ cause.message
  | .unwalkable cause => error.message ++ ": " ++ cause.message ++ ": " ++ cause.cause.message
  | .unparsable .. | .notDirectory _ => error.message

def message : Failure → String
  | project cause => cause.message
  | log cause => cause.message ++ ": " ++ cause.cause.message
  | generatorSettings cause => "Invalid generator configuration: " ++ cause.message
  | sources root cause =>
      "Failed to load sources from " ++ Text.quoted root.text ++ ": " ++ sourceMessage cause
  | unclean rejected failed =>
      "Generation finished with " ++ toString rejected ++ " rejected and " ++ toString failed
        ++ " failed declaration(s)"
  | noProject => "No " ++ ProjectConfig.defaultPath.text ++ " in the current directory"
  | generatorTable cause => "Invalid [generator] table: " ++ cause.message

end Failure

namespace GenerateRequest

def override (request : GenerateRequest) (config : Config) : Config :=
  config.override request.generatedDirectory request.marker request.language

end GenerateRequest

def complainAll (work : Workspace) (lines : List String) : Workspace :=
  lines.foldl Workspace.complain work

def printAll (work : Workspace) (lines : List String) : Workspace :=
  lines.foldl Workspace.print work

def complaints (diagnostics : List Diagnostic) (report : RoundReport) : List String :=
  diagnostics.map Diagnostic.render
    ++ report.failures.map fun failure => "error: " ++ failure.declaration ++ ": " ++ failure.error.message

def announcements (root : FilePath) (report : RoundReport) : List String :=
  (if report.claimed then [] else ["No annotated declarations found in " ++ Text.quoted root.text])
    ++ report.generated.map fun path => "✓ Generated: " ++ path.text

def generateFrom (request : GenerateRequest) (settings : Settings) (source : Source) (work : Workspace) :
    Workspace × Except Failure Unit :=
  let work := work.log (.sourcesLoaded source.files.length)
  let round := (Driver.ofSettings settings).run source work
  let report := round.report
  let work := complainAll round.work (complaints round.source.diagnostics report)
  let work := printAll work (announcements request.source report)
  (work, if report.isClean then .ok () else .error (.unclean report.rejected.length report.failures.length))

def generate (request : GenerateRequest) (config : Config) (work : Workspace) :
    Workspace × Except Failure Unit :=
  match (request.override config).validate with
  | .error cause => (work, .error (.generatorSettings cause))
  | .ok settings =>
      match Source.ofDirectory work request.source with
      | (work, .error cause) => (work, .error (.sources request.source cause))
      | (work, .ok source) => generateFrom request settings source work

def summary (settings : Settings) (log : Log.Config) : List String :=
  ["✓ Generated sources: " ++ settings.outputRoot.text, "✓ Annotation: #[" ++ settings.marker ++ "]",
    "✓ Language: " ++ settings.language.name, "✓ Log level: " ++ log.level.display,
    "\nConfiguration is valid!"]

def check (path : Option FilePath) (project : ProjectConfig) (work : Workspace) :
    Workspace × Except Failure Unit :=
  if path.isNone && !work.files.isFile ProjectConfig.defaultPath then (work, .error .noProject)
  else
    let work := work.print ("Checking config: " ++ (path.getD ProjectConfig.defaultPath).text)
    match project.generator.validate with
    | .error cause => (work, .error (.generatorTable cause))
    | .ok settings => (printAll work (summary settings project.log), .ok ())

namespace Invocation

/-- The configuration of the log: what the flags say, and otherwise what the project says. -/
def logConfig (invocation : Invocation) (project : ProjectConfig) : Log.Config :=
  ⟨invocation.logLevel.getD project.log.level, invocation.logFile.or project.log.file⟩

def perform (invocation : Invocation) (project : ProjectConfig) (work : Workspace) :
    Workspace × Except Failure Unit :=
  match invocation.request with
  | .generate request => generate request project.generator work
  | .check => check invocation.configuration project work

/-- Runs a call of the program. `environment` holds the directives for the log from the environment. -/
def run (invocation : Invocation) (environment : Option String) (work : Workspace) :
    Workspace × Except Failure Unit :=
  match ProjectConfig.load work.files invocation.configuration with
  | .error cause => (work, .error (.project cause))
  | .ok project =>
      match work.startLog (invocation.logConfig project) environment with
      | (work, .error cause) => (work, .error (.log cause))
      | (work, .ok ()) => invocation.perform project work

end Invocation

def versionText : String := "extractfield 0.1.0\n"

def failureStatus : Nat := 1

def misuseStatus : Nat := 2

def stop (halt : Halt) (work : Workspace) : Workspace × Nat :=
  match halt with
  | .version => ({ work with output := work.output ++ versionText }, 0)
  | .help scope => ({ work with output := work.output ++ scope.help }, 0)
  | .misuse misuse => ({ work with errors := work.errors ++ misuse.message }, misuseStatus)

/-- Runs the program with arguments and gives its exit status. -/
def run (arguments : List String) (environment : Option String) (work : Workspace) : Workspace × Nat :=
  match Invocation.ofArguments arguments with
  | .error halt => stop halt work
  | .ok invocation =>
      match invocation.run environment work with
      | (work, .ok ()) => (work, 0)
      | (work, .error failure) => (work.complain ("Error: " ++ failure.message), failureStatus)

end Companion.Command
