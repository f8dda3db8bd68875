import Companion.Config
import Companion.Emission
import Companion.Source
import Companion.Workspace

/-!
Generation rounds. A round looks for the declarations that carry the marker and makes the companion of each class
among them. Anything else that carries the marker is rejected with one diagnostic, and a companion that cannot be
written does not keep the others from being written.
-/

set_option autoImplicit false

namespace Companion

inductive DriverState where
  | idle
  | scanning
  | processing (declaration : String)
  deriving DecidableEq, Repr

def DriverState.render : DriverState → String
  | idle => "Idle"
  | scanning => "Scanning"
  | processing declaration => "Processing(" ++ declaration ++ ")"

/-- A declaration whose companion could not be written. -/
structure Failure where
  declaration : String
  error : GenerateError
  deriving DecidableEq, Repr

/-- What came of a round: whether there was anything to do, the files written, the declarations rejected, and the
failures, each in the order of the declarations. -/
structure RoundReport where
  claimed : Bool
  generated : List FilePath
  rejected : List String
  failures : List Failure
  deriving DecidableEq, Repr

namespace RoundReport

def unclaimed : RoundReport := ⟨false, [], [], []⟩

def begun : RoundReport := ⟨true, [], [], []⟩

def isClean (report : RoundReport) : Bool :=
  report.rejected.isEmpty && report.failures.isEmpty

end RoundReport

structure Driver where
  settings : Settings
  state : DriverState
  deriving DecidableEq, Repr

structure Round where
  driver : Driver
  report : RoundReport
  source : Source
  work : Workspace

namespace Round

def enter (round : Round) (state : DriverState) : Round :=
  { round with driver := { round.driver with state := state } }

def log (round : Round) (event : Log.Event) : Round :=
  { round with work := round.work.log event }

def reject (round : Round) (declaration : Declaration) : Round :=
  let name := declaration.qualifiedName
  let round := round.log (.declarationRejected onlyClassesMessage name declaration.kind.description)
  { round with
    source := round.source.report declaration onlyClassesMessage
    report := { round.report with rejected := round.report.rejected ++ [name] } }

def generate (round : Round) (declaration : Declaration) : Round :=
  let name := declaration.qualifiedName
  let settings := round.driver.settings
  let type := (round.source.metadata declaration).synthesize
  let round := round.log (round.source.readEvent declaration)
  let round := round.log (.typeSynthesized type.name type.properties.length type.methodCount)
  match type.emit settings.language settings.outputRoot round.work.files with
  | (files, .ok path) =>
      let round := { round with work := { round.work with files := files } }
      let round := round.log (.fileGenerated name path.text)
      { round with report := { round.report with generated := round.report.generated ++ [path] } }
  | (files, .error error) =>
      let round := { round with work := { round.work with files := files } }
      let round := round.log (.generationFailed name error.message)
      { round with report := { round.report with failures := round.report.failures ++ [⟨name, error⟩] } }

def process (round : Round) (declaration : Declaration) : Round :=
  let round := round.enter (.processing declaration.qualifiedName)
  if declaration.kind.isClassLike then round.generate declaration else round.reject declaration

def processAll (round : Round) (declarations : List Declaration) : Round :=
  declarations.foldl process round

end Round

namespace Driver

def ofSettings (settings : Settings) : Driver := ⟨settings, .idle⟩

def run (driver : Driver) (source : Source) (work : Workspace) : Round :=
  let marker := driver.settings.marker
  let declarations := source.declarationsWith marker
  let round := Round.enter ⟨driver, .unclaimed, source, work⟩ .scanning
  if declarations.isEmpty then
    (round.log (.nothingAnnotated marker)).enter .idle
  else
    let round := { round with report := .begun }
    let round := round.log
      (.roundStarted marker declarations.length driver.settings.outputRoot.text)
    let round := round.processAll declarations
    let report := round.report
    let round := round.log
      (.roundFinished report.generated.length report.rejected.length report.failures.length)
    round.enter .idle

end Driver

end Companion
