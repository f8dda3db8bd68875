import Companion.Proofs.Build.Stages
import Companion.Proofs.FileSystem.Causes

set_option autoImplicit false

namespace Companion

section

variable {settings : Settings} {source : Source}

theorem output_attempts (work : Workspace) (declarations : List Declaration) :
    (attempts settings source work declarations).1.output = work.output := by
  induction declarations generalizing work with
  | nil => rfl
  | cons declaration others ih =>
      unfold attempts
      split
      · exact (ih _).trans (by simp [Source.attempted, Source.tried, Source.announce])
      · exact (ih _).trans (by simp)

theorem Attempt.isOneLine_of_failure? {attempt : Attempt} {failure : Failure}
    (failed : attempt.failure? settings source = some failure) : Text.IsOneLine failure.error.message := by
  unfold Attempt.failure? at failed
  split at failed
  · cases failed
  · rename_i error outcome
    cases failed
    exact CompanionType.isOneLine_of_emit outcome

end

namespace Driver

theorem output_run (driver : Driver) (source : Source) (work : Workspace) :
    (driver.run source work).work.output = work.output := by
  by_cases nothing : source.declarationsWith driver.settings.marker = []
  · rw [run_of_nothing nothing]
    exact work.output_log _
  · obtain ⟨event, ran⟩ := run_of_some driver work nothing
    rw [ran]
    simp [output_attempts, Source.begun]

theorem isOneLine_of_mem_failures {driver : Driver} {source : Source} {work : Workspace} {failure : Failure}
    (member : failure ∈ (driver.run source work).report.failures) : Text.IsOneLine failure.error.message := by
  by_cases nothing : source.declarationsWith driver.settings.marker = []
  · rw [run_of_nothing nothing] at member
    cases member
  · obtain ⟨event, ran⟩ := run_of_some driver work nothing
    rw [ran] at member
    obtain ⟨attempt, -, failed⟩ : ∃ attempt ∈ source.attempts driver.settings work,
        attempt.failure? driver.settings source = some failure := by
      simpa [Round.reportBehind, RoundReport.begun] using member
    exact Attempt.isOneLine_of_failure? failed

end Driver

namespace Build

def IsDirective (line : String) : Prop :=
  ∃ directive, line = "cargo:" ++ directive

def printed : List String → String
  | [] => ""
  | directive :: others => "cargo:" ++ directive ++ "\n" ++ printed others

theorem printed_append (directives others : List String) :
    printed (directives ++ others) = printed directives ++ printed others := by
  induction directives with
  | nil => simp [printed]
  | cons directive rest ih => simp [printed, ih, String.append_assoc]

theorem split_printed (directives : List String) :
    Text.split (· == '\n') (printed directives) = Text.endedLines (printed directives) ++ [""] := by
  suffices last : "" ∈ (Text.split (· == '\n') (printed directives)).getLast? by
    rw [Text.endedLines, List.dropLast_append_getLast? _ last]
  induction directives with
  | nil => rfl
  | cons directive others ih =>
      have divided : Text.split (· == '\n') (("cargo:" ++ directive) ++ (String.singleton '\n' ++ printed others)) =
          Text.split (· == '\n') ("cargo:" ++ directive) ++ Text.split (· == '\n') (printed others) :=
        Text.split_append_separator (by simp) _ _
      rw [printed, String.append_assoc, show ("\n" : String) = String.singleton '\n' from rfl, divided,
        List.getLast?_append, Option.mem_def, Option.mem_def.mp ih]
      rfl

/-- Every line is a directive, exactly if every line behind the first of a directive is one. -/
theorem forall_endedLines_printed {directives : List String} :
    (∀ line ∈ Text.endedLines (printed directives), IsDirective line) ↔
      ∀ directive ∈ directives, ∀ line ∈ Text.furtherLines directive, IsDirective line := by
  induction directives with
  | nil => simp [printed]
  | cons directive others ih =>
      obtain ⟨first, -, divided⟩ := Text.split_append_of_isOneLine (show Text.IsOneLine "cargo:" by decide) directive
      rw [printed, Text.endedLines_append, divided, List.forall_mem_append, ih, List.forall_mem_cons, List.forall_mem_cons]
      simp [IsDirective]

theorem output_directAll (build : Build) (work : Workspace) (directives : List String) :
    (build.directAll work directives).output =
      work.output ++ if build.directives then printed directives else "" := by
  induction directives generalizing work with
  | nil => simp [directAll, printed]
  | cons directive others ih =>
      have further : (build.directAll work (directive :: others)).output =
        (build.directAll (build.direct work directive) others).output := rfl
      rw [further, ih]
      cases prints : build.directives <;> simp [direct, prints, printed, Workspace.print, String.append_assoc]

def failures? : Except BuildError RoundReport → Option (List Failure)
  | .ok report => some report.failures
  | .error (.round unclean) => some unclean.failures
  | .error (.configuration _) | .error (.source _) => none

def exposed (build : Build) (files : FileSystem) (failures : List Failure) : List String :=
  (build.sourceDirectory :: Source.rustFiles files build.sourceDirectory).map FilePath.text
    ++ failures.map fun failure => failure.declaration ++ ": " ++ failure.error.message

/-- What a build prints. Every line is ended; nothing is printed if no directives are asked for, or if the build does not
come to its round; and otherwise every line is a directive, exactly if that holds of every line behind the first of a text
that is printed as it is. So it does if the paths of the sources and the names of what failed have no line feeds. -/
structure Prints (build : Build) (files : FileSystem) (outcome : Except BuildError RoundReport) (text : String) : Prop where
  ended : Text.split (· == '\n') text = Text.endedLines text ++ [""]
  silent : build.directives = false ∨ failures? outcome = none → text = ""
  lines : build.directives = true → ∀ failures, failures? outcome = some failures →
    ((∀ line ∈ Text.endedLines text, IsDirective line) ↔
      ∀ shown ∈ build.exposed files failures, ∀ line ∈ Text.furtherLines shown, IsDirective line)
  plain : Text.IsOneLine build.sourceDirectory.text →
    (∀ path ∈ Source.rustFiles files build.sourceDirectory, Text.IsOneLine path.text) →
    (∀ failures, failures? outcome = some failures → ∀ failure ∈ failures, Text.IsOneLine failure.declaration) →
    ∀ line ∈ Text.endedLines text, IsDirective line

theorem output_generate (build : Build) (settings : Settings) (source : Source) (work : Workspace) :
    ∃ round : Round, (build.generate settings source work).1.output = work.output ++
        (if build.directives then printed (build.dependencies source.files
          ++ warnings round.source.diagnostics round.report.failures) else "") ∧
      failures? (build.generate settings source work).2 = some round.report.failures ∧
      ∀ failure ∈ round.report.failures, Text.IsOneLine failure.error.message := by
  refine ⟨(Driver.ofSettings settings).run source (build.directAll work (build.dependencies source.files)), ?_, ?_,
    fun failure member => Driver.isOneLine_of_mem_failures member⟩
  · unfold generate
    dsimp only
    rw [output_directAll, Driver.output_run, output_directAll]
    cases build.directives <;> simp [printed_append, String.append_assoc]
  · unfold generate
    dsimp only
    split <;> rfl

/-- The lines behind the first of a directive are those behind the first of a text that is printed as it is. -/
theorem forall_directives {build : Build} {files : FileSystem} {diagnostics : List Diagnostic} {failures : List Failure} :
    (∀ directive ∈ build.dependencies (Source.rustFiles files build.sourceDirectory) ++ warnings diagnostics failures,
        ∀ line ∈ Text.furtherLines directive, IsDirective line) ↔
      ∀ shown ∈ build.exposed files failures, ∀ line ∈ Text.furtherLines shown, IsDirective line := by
  have fixed : ∀ key ∈ ["rerun-if-env-changed=EXTRACTFIELD_ANNOTATION", "rerun-if-env-changed=EXTRACTFIELD_LANGUAGE"],
      ∀ line ∈ Text.furtherLines key, IsDirective line := by
    intro key member
    rw [Text.furtherLines_eq_nil_iff.mpr ((by decide : ∀ key ∈ _, Text.IsOneLine key) key member)]
    simp
  have depends : ∀ path : FilePath, Text.furtherLines ("rerun-if-changed=" ++ path.text) = Text.furtherLines path.text :=
    fun path => Text.furtherLines_append (by decide) path.text
  have warned : ∀ text, Text.furtherLines ("warning=" ++ text) = Text.furtherLines text :=
    Text.furtherLines_append (by decide)
  have divided : ∀ text ∈ diagnostics.flatMap fun diagnostic => Text.lines diagnostic.render,
      ∀ line ∈ Text.furtherLines text, IsDirective line := by
    intro text member
    obtain ⟨diagnostic, -, isLine⟩ := List.mem_flatMap.mp member
    rw [Text.furtherLines_eq_nil_iff.mpr (Text.isOneLine_of_mem_lines isLine)]
    simp
  unfold dependencies warnings exposed
  simp only [List.forall_mem_append, List.forall_mem_map, depends, warned]
  exact ⟨fun ⟨⟨_, paths⟩, _, causes⟩ => ⟨paths, causes⟩, fun ⟨paths, causes⟩ => ⟨⟨fixed, paths⟩, divided, causes⟩⟩

theorem prints_nothing {build : Build} {files : FileSystem} {outcome : Except BuildError RoundReport}
    (none : failures? outcome = none) : build.Prints files outcome "" := by
  constructor
  · rfl
  · exact fun _ => rfl
  · intro _ failures some
    rw [none] at some
    cases some
  · simp

theorem prints_directives {build : Build} {files : FileSystem} {outcome : Except BuildError RoundReport}
    {failures : List Failure} (came : failures? outcome = some failures)
    (oneLine : ∀ failure ∈ failures, Text.IsOneLine failure.error.message) (diagnostics : List Diagnostic) :
    build.Prints files outcome (if build.directives then printed
      (build.dependencies (Source.rustFiles files build.sourceDirectory) ++ warnings diagnostics failures) else "") := by
  cases prints : build.directives with
  | false =>
      constructor
      · rfl
      · exact fun _ => rfl
      · simp [prints]
      · simp
  | true =>
      have lines := forall_endedLines_printed.trans
        (@forall_directives build files diagnostics failures)
      simp only [if_true]
      constructor
      · exact split_printed _
      · simp [prints, came]
      · intro _ others same
        obtain rfl : failures = others := by simpa [came] using same
        exact lines
      · intro root paths names
        have told : ∀ failure ∈ failures, Text.IsOneLine (failure.declaration ++ ": " ++ failure.error.message) := by
          intro failure member
          rw [Text.isOneLine_append, Text.isOneLine_append]
          exact ⟨⟨names failures came failure member, by decide⟩, oneLine failure member⟩
        have plain : ∀ shown ∈ build.exposed files failures, Text.IsOneLine shown := by
          simp only [exposed, List.forall_mem_append, List.forall_mem_map, List.forall_mem_cons]
          exact ⟨⟨root, paths⟩, told⟩
        refine lines.mpr fun shown member => ?_
        rw [Text.furtherLines_eq_nil_iff.mpr (plain shown member)]
        simp

theorem run_prints (build : Build) (options : HostOptions) (work : Workspace) :
    ∃ text, (build.run options work).1.output = work.output ++ text ∧
      build.Prints work.files (build.run options work).2 text := by
  unfold run
  cases build.settings options with
  | error reason => exact ⟨"", by simp, prints_nothing rfl⟩
  | ok settings =>
      have silent := Source.output_ofDirectory work build.sourceDirectory
      dsimp only
      rcases loading : Source.ofDirectory work build.sourceDirectory with ⟨behind, reason | source⟩
      · rw [loading] at silent
        exact ⟨"", by simpa using silent, prints_nothing rfl⟩
      · rw [loading] at silent
        have walked : source.files = Source.rustFiles work.files build.sourceDirectory :=
          Source.files_of_ofDirectory (by rw [loading])
        obtain ⟨round, output, came, oneLine⟩ := build.output_generate settings source behind
        rw [walked, silent] at output
        exact ⟨_, output, prints_directives came oneLine _⟩

end Build

end Companion
