import Companion.Round

/-!
What a round makes of the declarations that it finds. The classes among them are *attempts*, each with the files that
the attempts before it left; all else is rejected. `Accounts` says that report, source and driver hold nothing but the
outcomes of the attempts and the rejections, each once and in the order of the declarations.
-/

set_option autoImplicit false

namespace Companion

namespace Workspace

@[simp] theorem log_logger (work : Workspace) (event : Log.Event) : (work.log event).logger = work.logger := by
  simp only [log]
  split
  · split <;> rfl
  · rfl

@[simp] theorem log_stamp (work : Workspace) (event : Log.Event) : (work.log event).stamp = work.stamp := by
  simp only [log]
  split
  · split <;> rfl
  · rfl

end Workspace

theorem CompanionType.emit_path {type : CompanionType} {language : Language} {root path : FilePath}
    {files : FileSystem} (written : (type.emit language root files).2 = .ok path) :
    path = type.outputPath root language.extension := by
  unfold CompanionType.emit at written
  rcases prepared : prepareDirectory files (type.outputPath root language.extension) with ⟨made, _ | _⟩
  · simp [prepared] at written
  · cases stored : made.write (type.outputPath root language.extension) (type.render language) with
    | error cause => simp [prepared, stored] at written
    | ok after => simpa [prepared, stored] using written.symm

def Source.companion (source : Source) (declaration : Declaration) : CompanionType :=
  (source.metadata declaration).synthesize

/-- A class whose companion is to be written, and the files that are there when its turn comes. -/
structure Attempt where
  declaration : Declaration
  files : FileSystem

namespace Attempt

def result (settings : Settings) (source : Source) (attempt : Attempt) :
    FileSystem × Except GenerateError FilePath :=
  (source.companion attempt.declaration).emit settings.language settings.outputRoot attempt.files

def written? (settings : Settings) (source : Source) (attempt : Attempt) : Option FilePath :=
  match (attempt.result settings source).2 with
  | .ok path => some path
  | .error _ => none

def failure? (settings : Settings) (source : Source) (attempt : Attempt) : Option Failure :=
  match (attempt.result settings source).2 with
  | .ok _ => none
  | .error error => some ⟨attempt.declaration.qualifiedName, error⟩

def event (settings : Settings) (source : Source) (attempt : Attempt) : Log.Event :=
  let name := attempt.declaration.qualifiedName
  match (attempt.result settings source).2 with
  | .ok path => .fileGenerated name path.text
  | .error error => .generationFailed name error.message

end Attempt

namespace Source

def announce (source : Source) (work : Workspace) (declaration : Declaration) : Workspace :=
  let type := source.companion declaration
  (work.log (source.readEvent declaration)).log
    (.typeSynthesized type.name type.properties.length type.methodCount)

def attemptOf (source : Source) (work : Workspace) (declaration : Declaration) : Attempt :=
  ⟨declaration, (source.announce work declaration).files⟩

def tried (source : Source) (settings : Settings) (work : Workspace) (declaration : Declaration) : Workspace :=
  { source.announce work declaration with files := ((source.attemptOf work declaration).result settings source).1 }

def attempted (source : Source) (settings : Settings) (work : Workspace) (declaration : Declaration) : Workspace :=
  (source.tried settings work declaration).log ((source.attemptOf work declaration).event settings source)

end Source

def Declaration.rejection (declaration : Declaration) : Log.Event :=
  .declarationRejected onlyClassesMessage declaration.qualifiedName declaration.kind.description

def attempts (settings : Settings) (source : Source) : Workspace → List Declaration → Workspace × List Attempt
  | work, [] => (work, [])
  | work, declaration :: others =>
      if declaration.kind.isClassLike then
        let behind := attempts settings source (source.attempted settings work declaration) others
        (behind.1, source.attemptOf work declaration :: behind.2)
      else attempts settings source (work.log declaration.rejection) others

variable {settings : Settings} {source : Source}

theorem attempts_declarations (work : Workspace) (declarations : List Declaration) :
    (attempts settings source work declarations).2.map Attempt.declaration =
      declarations.filter (·.kind.isClassLike) := by
  induction declarations generalizing work with
  | nil => rfl
  | cons declaration others ih =>
      cases isClass : declaration.kind.isClassLike with
      | true => simp [attempts, isClass, ih, Source.attemptOf]
      | false => simp [attempts, isClass, ih]

theorem Attempt.written?_eq {attempt : Attempt} {path : FilePath}
    (written : attempt.written? settings source = some path) :
    path = (source.companion attempt.declaration).outputPath settings.outputRoot settings.language.extension := by
  unfold Attempt.written? at written
  cases outcome : (attempt.result settings source).2 with
  | error error => simp [outcome] at written
  | ok done =>
      have same : done = path := by simpa [outcome] using written
      exact same ▸ CompanionType.emit_path outcome

/-- Reports do not touch what is read of a declaration. -/
@[simp] theorem Source.fieldsOf_report (declaration next : Declaration) (message : String) :
    (source.report declaration message).fieldsOf next = source.fieldsOf next := rfl

@[simp] theorem Source.companion_report (declaration next : Declaration) (message : String) :
    (source.report declaration message).companion next = source.companion next := by
  simp only [companion, metadata, fieldsOf_report]

@[simp] theorem Source.readEvent_report (declaration next : Declaration) (message : String) :
    (source.report declaration message).readEvent next = source.readEvent next := by
  simp only [readEvent, fieldsOf_report]

@[simp] theorem Source.announce_report (work : Workspace) (declaration next : Declaration) (message : String) :
    (source.report declaration message).announce work next = source.announce work next := by
  simp only [announce, companion_report, readEvent_report]

@[simp] theorem Source.attemptOf_report (work : Workspace) (declaration next : Declaration) (message : String) :
    (source.report declaration message).attemptOf work next = source.attemptOf work next := by
  simp only [attemptOf, announce_report]

@[simp] theorem Source.attempted_report (work : Workspace) (declaration next : Declaration) (message : String) :
    (source.report declaration message).attempted settings work next = source.attempted settings work next := by
  unfold attempted tried Attempt.event Attempt.result
  simp only [announce_report, attemptOf_report, companion_report]

theorem attempts_report (work : Workspace) (declaration : Declaration) (message : String)
    (declarations : List Declaration) :
    attempts settings (source.report declaration message) work declarations =
      attempts settings source work declarations := by
  induction declarations generalizing work with
  | nil => rfl
  | cons next others ih => simp [attempts, ih]

namespace Round

/-- A class is attempted: its path or its failure goes to the report, and nothing of the source changes. -/
theorem generate_eq (round : Round) (declaration : Declaration) :
    let attempt := round.source.attemptOf round.work declaration
    round.generate declaration =
      { round with
        report := { round.report with
          generated := round.report.generated ++ (attempt.written? round.driver.settings round.source).toList
          failures := round.report.failures ++ (attempt.failure? round.driver.settings round.source).toList }
        work := round.source.attempted round.driver.settings round.work declaration } := by
  intro attempt
  unfold attempt Source.attempted Source.tried Attempt.written? Attempt.failure? Attempt.event Attempt.result
    Source.attemptOf
  cases emitted : (round.source.companion declaration).emit round.driver.settings.language
      round.driver.settings.outputRoot (round.source.announce round.work declaration).files with
  | mk files outcome =>
      unfold Source.announce Source.companion at emitted ⊢
      unfold generate log
      cases outcome with
      | ok path => simp only [emitted, Option.toList, List.append_nil]
      | error error => simp only [emitted, Option.toList, List.append_nil]

theorem reject_eq (round : Round) (declaration : Declaration) :
    round.reject declaration =
      { round with
        source := round.source.report declaration onlyClassesMessage
        report := { round.report with rejected := round.report.rejected ++ [declaration.qualifiedName] }
        work := round.work.log declaration.rejection } := rfl

def reportBehind (settings : Settings) (source : Source) (report : RoundReport) (declarations : List Declaration)
    (made : List Attempt) : RoundReport :=
  ⟨report.claimed,
    report.generated ++ made.filterMap (Attempt.written? settings source),
    report.rejected ++ (declarations.filter fun found => !found.kind.isClassLike).map Declaration.qualifiedName,
    report.failures ++ made.filterMap (Attempt.failure? settings source)⟩

def sourceBehind (source : Source) (declarations : List Declaration) : Source :=
  { source with
    diagnostics := source.diagnostics ++
      (declarations.filter fun found => !found.kind.isClassLike).map (Diagnostic.against · onlyClassesMessage) }

theorem sourceBehind_report (source : Source) (declaration : Declaration) (others : List Declaration)
    (isOther : declaration.kind.isClassLike = false) :
    sourceBehind (source.report declaration onlyClassesMessage) others = sourceBehind source (declaration :: others) := by
  simp [sourceBehind, Source.report, isOther]

theorem written?_report (declaration : Declaration) (message : String) :
    Attempt.written? settings (source.report declaration message) = Attempt.written? settings source := by
  funext attempt
  unfold Attempt.written? Attempt.result
  rw [Source.companion_report]

theorem failure?_report (declaration : Declaration) (message : String) :
    Attempt.failure? settings (source.report declaration message) = Attempt.failure? settings source := by
  funext attempt
  unfold Attempt.failure? Attempt.result
  rw [Source.companion_report]

private theorem filterMap_cons_toList {α β : Type} (f : α → Option β) (first : α) (others : List α) :
    (first :: others).filterMap f = (f first).toList ++ others.filterMap f := by
  cases result : f first <;> simp [result]

/-- A run over declarations. The loop keeps that the report holds the outcomes of the attempts so far and the names of
what was rejected so far, and that the source differs from the one at the start by the diagnostics of these. -/
theorem processAll_eq (round : Round) (declarations : List Declaration) :
    ∃ state, round.processAll declarations =
      { driver := ⟨round.driver.settings, state⟩
        report := reportBehind round.driver.settings round.source round.report declarations
          (attempts round.driver.settings round.source round.work declarations).2
        source := sourceBehind round.source declarations
        work := (attempts round.driver.settings round.source round.work declarations).1 } := by
  induction declarations generalizing round with
  | nil => exact ⟨round.driver.state, by simp [processAll, attempts, reportBehind, sourceBehind]⟩
  | cons declaration others ih =>
      obtain ⟨state, rest⟩ := ih (round.process declaration)
      refine ⟨state, ?_⟩
      rw [processAll, List.foldl_cons]
      rw [processAll] at rest
      rw [rest]
      unfold process
      cases isClass : declaration.kind.isClassLike with
      | true =>
          simp only [if_true]
          rw [generate_eq]
          simp only [enter, attempts, isClass, if_true]
          simp [reportBehind, sourceBehind, filterMap_cons_toList, isClass]
      | false =>
          simp only [Bool.false_eq_true, if_false, reject_eq, enter, attempts, isClass, attempts_report,
            sourceBehind_report _ _ _ isClass]
          simp [reportBehind, written?_report, failure?_report, isClass]

end Round

namespace Source

def misplaced (source : Source) (marker : String) : List Declaration :=
  (source.declarationsWith marker).filter fun found => !found.kind.isClassLike

def marked (source : Source) (marker : String) : List Declaration :=
  (source.declarationsWith marker).filter (·.kind.isClassLike)

end Source

namespace Source

def begun (source : Source) (settings : Settings) (work : Workspace) : Workspace :=
  work.log (.roundStarted settings.marker (source.declarationsWith settings.marker).length settings.outputRoot.text)

def attempts (source : Source) (settings : Settings) (work : Workspace) : List Attempt :=
  (Companion.attempts settings source (source.begun settings work) (source.declarationsWith settings.marker)).2

end Source

/-- A round accounts for each declaration that it found: attempts and rejections are in the order of the declarations,
an attempt led either to the output path of its companion or to a failure, the report consists of these outcomes, the
source has one diagnostic more for each rejection, with the name of the declaration and its place, and the driver waits for the
next round. -/
structure Round.Accounts (settings : Settings) (source : Source) (work : Workspace) (round : Round) : Prop where
  claimed : round.report.claimed = true ↔ source.declarationsWith settings.marker ≠ []
  attempted : (source.attempts settings work).map Attempt.declaration = source.marked settings.marker
  outcome : ∀ attempt ∈ source.attempts settings work,
    (attempt.failure? settings source = none ∧ attempt.written? settings source =
        some ((source.companion attempt.declaration).outputPath settings.outputRoot settings.language.extension)) ∨
      (attempt.written? settings source = none ∧ ∃ error, (attempt.result settings source).2 = .error error ∧
        attempt.failure? settings source = some ⟨attempt.declaration.qualifiedName, error⟩)
  generated : round.report.generated =
    (source.attempts settings work).filterMap (Attempt.written? settings source)
  failures : round.report.failures =
    (source.attempts settings work).filterMap (Attempt.failure? settings source)
  rejected : round.report.rejected = (source.misplaced settings.marker).map Declaration.qualifiedName
  source_eq : round.source = { source with
    diagnostics := source.diagnostics ++ (source.misplaced settings.marker).map fun found =>
      ⟨found.qualifiedName, "only classes can be annotated", found.location⟩ }
  driver_eq : round.driver = ⟨settings, .idle⟩

theorem Attempt.outcome_cases (settings : Settings) (source : Source) (attempt : Attempt) :
    (attempt.failure? settings source = none ∧ attempt.written? settings source =
        some ((source.companion attempt.declaration).outputPath settings.outputRoot settings.language.extension)) ∨
      (attempt.written? settings source = none ∧ ∃ error, (attempt.result settings source).2 = .error error ∧
        attempt.failure? settings source = some ⟨attempt.declaration.qualifiedName, error⟩) := by
  unfold Attempt.written? Attempt.failure?
  cases outcome : (attempt.result settings source).2 with
  | ok path => exact .inl ⟨rfl, congrArg some (CompanionType.emit_path outcome)⟩
  | error error => exact .inr ⟨rfl, error, rfl, rfl⟩

namespace Driver

theorem run_of_nothing {driver : Driver} {source : Source} {work : Workspace}
    (nothing : source.declarationsWith driver.settings.marker = []) :
    driver.run source work =
      ⟨⟨driver.settings, .idle⟩, .unclaimed, source, work.log (.nothingAnnotated driver.settings.marker)⟩ := by
  unfold run
  simp only [nothing, List.isEmpty_nil, if_true]
  rfl

/-- A round that finds something: what is behind its loop, and then the last event and the idle state. -/
theorem run_eq_of_some (driver : Driver) {source : Source} (work : Workspace)
    (some : source.declarationsWith driver.settings.marker ≠ []) :
    let report := Round.reportBehind driver.settings source .begun (source.declarationsWith driver.settings.marker)
      (source.attempts driver.settings work)
    driver.run source work =
      { driver := ⟨driver.settings, .idle⟩
        report := report
        source := Round.sourceBehind source (source.declarationsWith driver.settings.marker)
        work := (attempts driver.settings source (source.begun driver.settings work)
          (source.declarationsWith driver.settings.marker)).1.log
            (.roundFinished report.generated.length report.rejected.length report.failures.length) } := by
  have isSome : (source.declarationsWith driver.settings.marker).isEmpty = false := by simpa using some
  unfold run
  simp only [isSome, Bool.false_eq_true, if_false, Round.enter, Round.log]
  obtain ⟨state, looped⟩ := Round.processAll_eq
    ⟨⟨driver.settings, .scanning⟩, .begun, source, source.begun driver.settings work⟩
    (source.declarationsWith driver.settings.marker)
  unfold Source.begun at looped ⊢
  rw [looped]
  rfl

/-- A round that finds something, whatever its last event is. -/
theorem run_of_some (driver : Driver) {source : Source} (work : Workspace)
    (some : source.declarationsWith driver.settings.marker ≠ []) :
    ∃ event, driver.run source work =
      { driver := ⟨driver.settings, .idle⟩
        report := Round.reportBehind driver.settings source .begun (source.declarationsWith driver.settings.marker)
          (source.attempts driver.settings work)
        source := Round.sourceBehind source (source.declarationsWith driver.settings.marker)
        work := (attempts driver.settings source (source.begun driver.settings work)
          (source.declarationsWith driver.settings.marker)).1.log event } :=
  ⟨_, run_eq_of_some driver work some⟩

theorem run_accountsFor (driver : Driver) (source : Source) (work : Workspace) :
    (driver.run source work).Accounts driver.settings source work := by
  have outcome := fun attempt (_ : attempt ∈ source.attempts driver.settings work) =>
    attempt.outcome_cases driver.settings source
  by_cases nothing : source.declarationsWith driver.settings.marker = []
  · have none : source.attempts driver.settings work = [] := by
      simp [Source.attempts, nothing, Companion.attempts]
    rw [run_of_nothing nothing]
    refine ⟨?_, ?_, outcome, ?_, ?_, ?_, ?_, rfl⟩ <;>
      simp [RoundReport.unclaimed, nothing, none, Source.marked, Source.misplaced]
  · obtain ⟨event, ran⟩ := run_of_some driver work nothing
    rw [ran]
    refine ⟨?_, ?_, outcome, ?_, ?_, ?_, ?_, rfl⟩ <;>
      simp [Round.reportBehind, Round.sourceBehind, RoundReport.begun, nothing, Source.marked, Source.misplaced,
        Source.attempts, attempts_declarations, Diagnostic.against, onlyClassesMessage]

def rounds (driver : Driver) (source : Source) (work : Workspace) : Nat → Round
  | 0 => ⟨driver, .unclaimed, source, work⟩
  | count + 1 =>
      let before := rounds driver source work count
      before.driver.run before.source before.work

/-- The settings stay, and diagnostics add up: behind each round there is one more for each rejection. -/
theorem rounds_source (driver : Driver) (source : Source) (work : Workspace) (count : Nat) :
    (driver.rounds source work count).driver.settings = driver.settings ∧
      (driver.rounds source work count).source = { source with
        diagnostics := source.diagnostics ++ (List.replicate count
          ((source.misplaced driver.settings.marker).map fun found =>
            ⟨found.qualifiedName, "only classes can be annotated", found.location⟩)).flatten } := by
  induction count with
  | zero => simp [rounds]
  | succ count ih =>
      obtain ⟨sameSettings, sameSource⟩ := ih
      have accounts := run_accountsFor (driver.rounds source work count).driver
        (driver.rounds source work count).source (driver.rounds source work count).work
      refine ⟨by rw [rounds, accounts.driver_eq, sameSettings], ?_⟩
      rw [rounds, accounts.source_eq, sameSettings, sameSource]
      simp [Source.misplaced, Source.declarationsWith, List.replicate_succ']

/-- However many rounds came before, a round accounts for what the first one found, and the diagnostics add up. -/
theorem rounds_account (driver : Driver) (source : Source) (work : Workspace) (count : Nat) :
    let before := driver.rounds source work count
    let misplaced := source.misplaced driver.settings.marker
    (driver.rounds source work (count + 1)).Accounts driver.settings before.source before.work ∧
      before.source.declarationsWith driver.settings.marker = source.declarationsWith driver.settings.marker ∧
      before.source = { source with
        diagnostics := source.diagnostics ++ (List.replicate count (misplaced.map fun found =>
          ⟨found.qualifiedName, "only classes can be annotated", found.location⟩)).flatten } := by
  intro before misplaced
  obtain ⟨sameSettings, sameSource⟩ := rounds_source driver source work count
  have accounts := run_accountsFor before.driver before.source before.work
  refine ⟨?_, ?_, sameSource⟩
  · rw [sameSettings] at accounts
    exact accounts
  · have same : before.source.entries = source.entries := by rw [sameSource]
    simp only [Source.declarationsWith, same]

end Driver

end Companion
