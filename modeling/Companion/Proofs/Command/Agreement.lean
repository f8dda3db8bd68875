import Companion.Proofs.Build.Directives
import Companion.Proofs.Command.Flags
import Companion.Proofs.Render.Shape
import Companion.Proofs.Round.Alike

/-!
The command line and build scripts agree. A call of `generate` and a build with the same source directory, output root,
language and marker, from the same files and without further configuration, leave the same files; they succeed or fail
together, and for the same reason; and the call lists what the round of the build generated.
-/

set_option autoImplicit false

namespace Companion.Command

open Companion.Render (begins)
open Companion.Text (IsOneLine ended endedLines)

theorem printAll_eq (work : Workspace) (lines : List String) :
    printAll work lines = { work with output := work.output ++ ended lines } := by
  induction lines generalizing work with
  | nil => simp [printAll]
  | cons line others ih =>
      refine (ih (work.print line)).trans ?_
      simp [Workspace.print, String.append_assoc]

theorem complainAll_eq (work : Workspace) (lines : List String) :
    complainAll work lines = { work with errors := work.errors ++ ended lines } := by
  induction lines generalizing work with
  | nil => simp [complainAll]
  | cons line others ih =>
      refine (ih (work.complain line)).trans ?_
      simp [Workspace.complain, String.append_assoc]

/-- What stands in front of the path of each file that was generated. -/
def generatedMark : String :=
  "✓ Generated: "

/-- What is announced of a round lists the files that it generated, in order. -/
theorem filter_announcements (root : FilePath) (report : RoundReport) :
    (announcements root report).filter (begins generatedMark) = report.generated.map fun path => generatedMark ++ path.text := by
  have other : begins generatedMark ("No annotated declarations found in " ++ Text.quoted root.text) = false :=
    Render.not_begins generatedMark (by decide) (by simp [generatedMark])
  have front : (if report.claimed then [] else ["No annotated declarations found in " ++ Text.quoted root.text]).filter
      (begins generatedMark) = [] := by
    split
    · rfl
    · simp [other]
  have marked : ∀ line ∈ report.generated.map fun path => generatedMark ++ path.text, begins generatedMark line = true :=
    List.forall_mem_map.mpr fun path _ => Render.begins_self generatedMark path.text
  unfold announcements
  rw [List.filter_append, front, List.nil_append]
  exact List.filter_eq_self.mpr marked

/-- Each announcement is a line of its own, unless a path breaks lines. -/
theorem endedLines_announcements (root : FilePath) {report : RoundReport}
    (oneLine : ∀ path ∈ report.generated, IsOneLine path.text) :
    endedLines (ended (announcements root report)) = announcements root report := by
  refine Text.endedLines_ended ?_
  unfold announcements
  refine List.forall_mem_append.mpr ⟨?_, List.forall_mem_map.mpr fun path member => ?_⟩
  · split
    · simp
    · exact List.forall_mem_singleton.mpr (Text.isOneLine_append.mpr ⟨by decide, Text.isOneLine_quoted root.text⟩)
  · exact Text.isOneLine_append.mpr ⟨by decide, oneLine path member⟩

def failureOf (source : FilePath) : BuildError → Failure
  | .configuration cause => .generatorSettings cause
  | .source cause => .sources source cause
  | .round unclean => .unclean unclean.rejectedCount unclean.failedCount

def outcomeOf (source : FilePath) : Except BuildError RoundReport → Except Failure Unit
  | .ok _ => .ok ()
  | .error error => .error (failureOf source error)

def report? : Except BuildError RoundReport → Option RoundReport
  | .ok report => some report
  | .error (.round unclean) => some unclean.toRoundReport
  | .error (.configuration _) | .error (.source _) => none

def announced (source : FilePath) (outcome : Except BuildError RoundReport) : List String :=
  match report? outcome with
  | some report => announcements source report
  | none => []

/-- Whether a call comes to what a build comes to: it leaves the same files, and has the outcome and the announcements that
belong to the outcome of the build. -/
structure Mirrors (source : FilePath) (printed : String) (call : Workspace × Except Failure Unit)
    (build : Workspace × Except BuildError RoundReport) : Prop where
  files : call.1.files = build.1.files
  outcome : call.2 = outcomeOf source build.2
  output : call.1.output = printed ++ ended (announced source build.2)

section

variable {request : GenerateRequest} {work other : Workspace}

end

/-- How a call of the program agrees with a build. They leave the same files, and succeed together. Where the build fails,
the call says so last, for the same reason or with the same numbers. Nothing is printed unless the round runs; then what is
printed has one entry for each file that the round generated, in order, and the entries are lines unless a path breaks
lines. -/
structure Agrees (source : FilePath) (printed : String) (call : Workspace × Nat)
    (build : Workspace × Except BuildError RoundReport) : Prop where
  files : call.1.files = build.1.files
  status : call.2 = 0 ↔ ∃ report, build.2 = .ok report
  failure : ∀ error, build.2 = .error error →
    ∃ earlier, call.1.errors = earlier ++ ("Error: " ++ (failureOf source error).message ++ "\n")
  quiet : report? build.2 = none → call.1.output = printed
  generated : ∀ report, report? build.2 = some report → ∃ shown, call.1.output = printed ++ ended shown ∧
    shown.filter (begins generatedMark) = report.generated.map (fun path => generatedMark ++ path.text) ∧
    ((∀ path ∈ report.generated, IsOneLine path.text) → endedLines (ended shown) = shown)

/-- Ends a call that came to an outcome, with the exit status. -/
def conclude (result : Workspace × Except Failure Unit) : Workspace × Nat :=
  match result.2 with
  | .ok () => (result.1, 0)
  | .error failure => (result.1.complain ("Error: " ++ failure.message), failureStatus)

@[simp] theorem files_conclude (result : Workspace × Except Failure Unit) : (conclude result).1.files = result.1.files := by
  unfold conclude
  split <;> rfl

@[simp] theorem output_conclude (result : Workspace × Except Failure Unit) :
    (conclude result).1.output = result.1.output := by
  unfold conclude
  split <;> rfl

/-- A call ends with the status of success exactly if it succeeded. -/
theorem status_conclude_eq_zero {result : Workspace × Except Failure Unit} :
    (conclude result).2 = 0 ↔ result.2 = .ok () := by
  unfold conclude
  split
  · rename_i succeeded
    simp [succeeded]
  · rename_i failed
    simp [failed, failureStatus]

/-- A call that comes to what a build comes to agrees with the build, once it has ended. -/
theorem Mirrors.agrees {source : FilePath} {printed : String} {call : Workspace × Except Failure Unit}
    {build : Workspace × Except BuildError RoundReport} (mirrors : Mirrors source printed call build) :
    Agrees source printed (conclude call) build := by
  obtain ⟨files, outcome, output⟩ := mirrors
  refine ⟨(files_conclude call).trans files, ?status, ?failure, ?quiet, ?generated⟩
  case status =>
    rw [status_conclude_eq_zero, outcome]
    cases build.2 with
    | ok report => simp [outcomeOf]
    | error error => simp [outcomeOf]
  case failure =>
    intro error failed
    refine ⟨call.1.errors, ?_⟩
    unfold conclude
    rw [outcome, failed]
    simp [outcomeOf, Workspace.complain, String.append_assoc]
  case quiet =>
    intro unreported
    rw [output_conclude, output, announced, unreported]
    simp
  case generated =>
    intro report reported
    refine ⟨announcements source report, ?_, filter_announcements source report, endedLines_announcements source⟩
    rw [output_conclude, output, announced, reported]

/-- A call whose arguments are read ends as what they request does. -/
theorem run_of_read {arguments : List String} {invocation : Invocation}
    (read : Invocation.ofArguments arguments = .ok invocation) (environment : Option String) (work : Workspace) :
    run arguments environment work = conclude (invocation.run environment work) := by
  unfold run conclude
  simp only [read]
  rcases invocation.run environment work with ⟨done, ⟨failure⟩ | ⟨⟩⟩ <;> rfl

/-- What comes of a call whose arguments are read, where there is no configuration of the project. -/
theorem run_eq {arguments : List String} {request : GenerateRequest}
    (read : Invocation.ofArguments arguments = .ok ⟨none, none, none, .generate request⟩) (environment : Option String)
    {work : Workspace} (unconfigured : work.files.isFile ProjectConfig.defaultPath = false) :
    run arguments environment work =
      conclude (generate request .default { work with logger := ⟨Log.Config.default.filter environment, .standardError⟩ }) := by
  have project : ProjectConfig.load work.files none = .ok .default := by
    simp [ProjectConfig.load, unconfigured]
  have performed : Invocation.run ⟨none, none, none, .generate request⟩ environment work =
      generate request .default { work with logger := ⟨Log.Config.default.filter environment, .standardError⟩ } := by
    unfold Invocation.run
    simp only [project]
    rfl
  rw [run_of_read read, performed]

end Companion.Command
