import Companion.Proofs.Emission.Repetition
import Companion.Proofs.Round.Order
import Mathlib.Data.List.Forall2

/-!
A round that is run again. Each attempt comes to what it came to before, and makes nothing new, whatever the attempts
behind it did in the first round; and what several classes wrote to one place, the last of them writes again. So the
second round reports what the first one did, and leaves every place as it is.
-/

set_option autoImplicit false

namespace Companion

open FileSystem (Keeps Steady)

/-- A class whose name has no slash, in modules that have none and do not lead back. -/
structure Declaration.IsForward (declaration : Declaration) : Prop where
  slash : '/' ∉ declaration.name.toList
  segments : ∀ segment ∈ declaration.space.segments, '/' ∉ segment.toList ∧ segment ≠ ".."

instance (declaration : Declaration) : Decidable declaration.IsForward :=
  decidable_of_iff ('/' ∉ declaration.name.toList ∧
    ∀ segment ∈ declaration.space.segments, '/' ∉ segment.toList ∧ segment ≠ "..")
    ⟨fun ⟨slash, segments⟩ => ⟨slash, segments⟩, fun ⟨slash, segments⟩ => ⟨slash, segments⟩⟩

/-- Whether a tree can come behind another in a round: it has all that the other has, and paths start at the same. -/
structure FileSystem.Later (root : FilePath) (files after : FileSystem) : Prop where
  keeps : Keeps files after
  start : after.shape? (files.startOf root) = files.shape? (files.startOf root)

namespace FileSystem.Later

variable {root : FilePath} {files middle after : FileSystem}

theorem ofSame (working : after.working = files.working) (same : ∀ names, after.shape? names = files.shape? names) :
    Later root files after :=
  ⟨.ofSame working same, same _⟩

theorem trans (first : Later root files middle) (second : Later root middle after) : Later root files after := by
  refine ⟨first.keeps.trans second.keeps, ?_⟩
  have start := second.start
  rw [startOf_congr first.keeps.working rfl] at start
  rw [start, first.start]

theorem log (root : FilePath) (work : Workspace) (event : Log.Event) : Later root work.files (work.log event).files :=
  .ofSame (work.working_log event) (work.shape?_log event)

end FileSystem.Later

open FileSystem (Later)

variable {settings : Settings} {source : Source}

theorem Declaration.IsForward.slashFree {declaration : Declaration} (forward : declaration.IsForward) :
    ∀ segment ∈ declaration.space.segments, '/' ∉ segment.toList :=
  fun segment member => (forward.segments segment member).1

section Attempt

variable {attempt : Attempt} (forward : attempt.declaration.IsForward) (linkFree : attempt.files.LinkFree)

include forward linkFree

theorem Attempt.exists_emits (settings : Settings) (source : Source) : ∃ directory made,
    (source.companion attempt.declaration).Houses settings.language settings.outputRoot directory ∧
      (source.companion attempt.declaration).Emits settings.language settings.outputRoot directory attempt.files made
        (attempt.result settings source) := by
  have isEntry : IsEntry ((source.companion attempt.declaration).fileName settings.language.extension) :=
    isEntry_fileName forward.slash
  obtain ⟨directory, houses⟩ := CompanionType.exists_houses settings.outputRoot isEntry
  obtain ⟨made, emits⟩ := CompanionType.exists_emits linkFree isEntry houses
  exact ⟨directory, made, houses, emits⟩

theorem Attempt.later (settings : Settings) (source : Source) :
    Later settings.outputRoot attempt.files (attempt.result settings source).1 := by
  obtain ⟨directory, made, houses, emits⟩ := Attempt.exists_emits forward linkFree settings source
  have start := emits.start linkFree (isEntry_fileName forward.slash) houses
  rw [houses.startOf forward.slashFree] at start
  exact ⟨(emits.keeps linkFree).2, start⟩

end Attempt

/-- Two attempts of one class that come to the same, but for the causes that a file in the way can have; and without
exception under a condition. -/
structure Attempt.Repeats (settings : Settings) (source : Source) (steady : Prop) (first again : Attempt) : Prop where
  declaration : again.declaration = first.declaration
  coarse : (again.result settings source).2.mapError GenerateError.coarse =
    (first.result settings source).2.mapError GenerateError.coarse
  causes : steady → (again.result settings source).2 = (first.result settings source).2

/-- An attempt that is made again in a later tree comes to the same, and changes the sort of no place. -/
theorem Attempt.repeats {first again : Attempt} (same : again.declaration = first.declaration)
    (forward : first.declaration.IsForward) (linkFree : first.files.LinkFree) (linkFreeAgain : again.files.LinkFree)
    (later : Later settings.outputRoot (first.result settings source).1 again.files) :
    Attempt.Repeats settings source (first.files.Steady settings.outputRoot) first again ∧
      ∀ names, (again.result settings source).1.shape? names = again.files.shape? names := by
  obtain ⟨declaration, filesAgain⟩ := again
  obtain rfl : declaration = first.declaration := same
  have isEntry : IsEntry ((source.companion first.declaration).fileName settings.language.extension) :=
    isEntry_fileName forward.slash
  obtain ⟨directory, made, houses, emits⟩ := Attempt.exists_emits forward linkFree settings source
  obtain ⟨madeAgain, emitsAgain⟩ := CompanionType.exists_emits linkFreeAgain isEntry houses
  have start := ((Attempt.later forward linkFree settings source).trans later).start
  rw [← houses.startOf forward.slashFree] at start
  obtain ⟨coarse, causes⟩ := CompanionType.outcome_again linkFree emits emitsAgain later.keeps start isEntry houses
  refine ⟨⟨rfl, coarse, fun steady => causes fun front step rest split isFile => ?_⟩,
    CompanionType.shape?_again linkFree emits emitsAgain later.keeps start isEntry houses⟩
  exact houses.not_lacks forward.slashFree (fun back => (forward.segments _ back).2 rfl) steady split isFile

namespace Attempt.Repeats

variable {steady : Prop} {first again : Attempt} (repeats : Attempt.Repeats settings source steady first again)

include repeats

theorem mono {other : Prop} (imp : other → steady) : Attempt.Repeats settings source other first again :=
  ⟨repeats.declaration, repeats.coarse, fun holds => repeats.causes (imp holds)⟩

theorem written?_eq : again.written? settings source = first.written? settings source := by
  have coarse := repeats.coarse
  unfold written?
  generalize (again.result settings source).2 = outcomeAgain at coarse ⊢
  generalize (first.result settings source).2 = outcome at coarse ⊢
  cases outcome with
  | ok path =>
      obtain ⟨other, rfl⟩ := (isOk_of_coarse coarse).mpr ⟨path, rfl⟩
      exact congrArg some (Except.ok.inj coarse)
  | error error =>
      cases outcomeAgain with
      | ok path => cases coarse
      | error other => rfl

theorem coarse_failure? : (again.failure? settings source).map Failure.coarse =
    (first.failure? settings source).map Failure.coarse := by
  have coarse := repeats.coarse
  unfold failure?
  rw [repeats.declaration]
  generalize (again.result settings source).2 = outcomeAgain at coarse ⊢
  generalize (first.result settings source).2 = outcome at coarse ⊢
  cases outcome with
  | ok path =>
      obtain ⟨other, rfl⟩ := (isOk_of_coarse coarse).mpr ⟨path, rfl⟩
      rfl
  | error error =>
      cases outcomeAgain with
      | ok path => cases coarse
      | error other =>
          exact congrArg (fun coarse => some (Failure.mk first.declaration.qualifiedName coarse)) (Except.error.inj coarse)

theorem failure?_eq (holds : steady) : again.failure? settings source = first.failure? settings source := by
  unfold failure?
  rw [repeats.causes holds, repeats.declaration]

end Attempt.Repeats

section Run

variable {work again : Workspace} {declaration : Declaration} {declarations : List Declaration}

def Attempt.stored? (settings : Settings) (source : Source) (files : FileSystem) (names : List String) (attempt : Attempt) :
    Option ByteArray :=
  (attempt.written? settings source).bind fun path =>
    if files.placeOf path = names then some (source.contentOf settings attempt.declaration) else none

theorem Attempt.exists_of_stored? {files : FileSystem} {names : List String} {attempt : Attempt} {content : ByteArray}
    (stored : attempt.stored? settings source files names = some content) :
    ∃ path, attempt.written? settings source = some path ∧ files.placeOf path = names ∧
      content = source.contentOf settings attempt.declaration := by
  unfold stored? at stored
  obtain ⟨path, written, here⟩ := Option.bind_eq_some_iff.mp stored
  split at here
  · rename_i place
    exact ⟨path, written, place, (Option.some.inj here).symm⟩
  · cases here

theorem Attempt.not_wrote_of_stored? {files : FileSystem} {names : List String} {attempt : Attempt}
    (nothing : attempt.stored? settings source files names = none) : ¬ attempt.Wrote settings source files names := by
  rintro ⟨path, written, rfl⟩
  rw [stored?, written, Option.bind_some, if_pos rfl] at nothing
  cases nothing

/-- What several attempts left at a place: what the last of them wrote that wrote there. -/
def lastStored? (settings : Settings) (source : Source) (files : FileSystem) (names : List String) :
    List Attempt → Option ByteArray
  | [] => none
  | attempt :: others =>
      (lastStored? settings source files names others).or (attempt.stored? settings source files names)

theorem lastStored?_congr {before after : FileSystem} (working : after.working = before.working) :
    lastStored? settings source after = lastStored? settings source before := by
  funext names attempts
  induction attempts with
  | nil => rfl
  | cons attempt others ih =>
      rw [lastStored?, lastStored?, ih, Attempt.stored?, Attempt.stored?, FileSystem.placeOf_congr working]

theorem lastStored?_of_repeats {steady : Prop} {files : FileSystem} {names : List String} {made madeAgain : List Attempt}
    (repeats : List.Forall₂ (Attempt.Repeats settings source steady) made madeAgain) :
    lastStored? settings source files names madeAgain = lastStored? settings source files names made := by
  induction repeats with
  | nil => rfl
  | cons first _ ih =>
      rw [lastStored?, lastStored?, ih, Attempt.stored?, Attempt.stored?, first.written?_eq, first.declaration]

theorem filterMap_of_repeats {α : Type} {steady : Prop} {f : Attempt → Option α} {made madeAgain : List Attempt}
    (same : ∀ first again, Attempt.Repeats settings source steady first again → f again = f first)
    (repeats : List.Forall₂ (Attempt.Repeats settings source steady) made madeAgain) :
    madeAgain.filterMap f = made.filterMap f := by
  induction repeats with
  | nil => rfl
  | cons first _ ih => simp only [List.filterMap_cons, same _ _ first, ih]

theorem later_announced (settings : Settings) (source : Source) (work : Workspace) (declaration : Declaration) :
    Later settings.outputRoot work.files (source.attemptOf work declaration).files :=
  (Later.log _ work _).trans (Later.log _ _ _)

theorem later_behind (settings : Settings) (source : Source) (work : Workspace) (declaration : Declaration) :
    Later settings.outputRoot ((source.attemptOf work declaration).result settings source).1
      (source.attempted settings work declaration).files := by
  have logged := Later.log settings.outputRoot (source.tried settings work declaration)
    ((source.attemptOf work declaration).event settings source)
  rwa [Source.tried_files] at logged

theorem later_attempted (forward : declaration.IsForward) (linkFree : work.files.LinkFree) :
    Later settings.outputRoot work.files (source.attempted settings work declaration).files := by
  have attempt : Later settings.outputRoot (source.attemptOf work declaration).files _ :=
    Attempt.later forward ((source.attemptOf_changes work declaration).linkFree linkFree) settings source
  exact ((later_announced settings source work declaration).trans attempt).trans (later_behind settings source work declaration)

theorem linkFree_attempted (forward : declaration.IsForward) (linkFree : work.files.LinkFree) :
    (source.attempted settings work declaration).files.LinkFree :=
  (source.attempted_changes settings (isEntry_fileName forward.slash) linkFree).1.linkFree linkFree

/-- What an attempt leaves at a place: what it wrote there, and otherwise what was there. -/
theorem face?_attempted (settings : Settings) (source : Source) (forward : declaration.IsForward)
    (linkFree : work.files.LinkFree) {names : List String} (noLog : ¬ work.LogsTo names) :
    (∀ content, (source.attemptOf work declaration).stored? settings source work.files names = some content →
        (source.attempted settings work declaration).files.face? names = some (.file content)) ∧
      ((source.attemptOf work declaration).stored? settings source work.files names = none →
        work.files.face? names ≠ none →
        (source.attempted settings work declaration).files.face? names = work.files.face? names) := by
  obtain ⟨changes, holds⟩ := source.attempted_changes settings (isEntry_fileName forward.slash) linkFree
  constructor
  · intro content stored
    obtain ⟨path, written, rfl, rfl⟩ := Attempt.exists_of_stored? stored
    have face := (holds path written noLog).face
    rw [FileSystem.placeOf_congr changes.working] at face
    rw [face]
    rfl
  · intro nothing something
    obtain same | ⟨missing, -⟩ | ⟨-, -, logs | wrote⟩ := changes.faces names
    · exact same
    · exact absurd missing something
    · exact absurd logs noLog
    · exact absurd wrote (Attempt.not_wrote_of_stored? nothing)

variable (forward : ∀ found ∈ declarations, found.kind.isClassLike → found.IsForward)

include forward

theorem later_attempts (linkFree : work.files.LinkFree) :
    Later settings.outputRoot work.files (attempts settings source work declarations).1.files := by
  induction declarations generalizing work with
  | nil => exact .ofSame rfl fun _ => rfl
  | cons declaration others ih =>
      obtain ⟨first, othersForward⟩ := List.forall_mem_cons.mp forward
      unfold attempts
      split
      · rename_i isClass
        exact (later_attempted (first isClass) linkFree).trans
          (ih othersForward (linkFree_attempted (first isClass) linkFree))
      · exact (Later.log _ work _).trans (ih othersForward ((work.log_changes _).linkFree linkFree))

theorem linkFree_attempts (linkFree : work.files.LinkFree) :
    (attempts settings source work declarations).1.files.LinkFree := by
  induction declarations generalizing work with
  | nil => exact linkFree
  | cons declaration others ih =>
      obtain ⟨first, othersForward⟩ := List.forall_mem_cons.mp forward
      unfold attempts
      split
      · rename_i isClass
        exact ih othersForward (linkFree_attempted (first isClass) linkFree)
      · exact ih othersForward ((work.log_changes _).linkFree linkFree)

/-- A run that is made again in a later tree: each attempt comes to the same, and no place changes its sort. -/
theorem attempts_again (linkFree : work.files.LinkFree) (linkFreeAgain : again.files.LinkFree)
    (later : Later settings.outputRoot (attempts settings source work declarations).1.files again.files) :
    List.Forall₂ (Attempt.Repeats settings source (work.files.Steady settings.outputRoot))
        (attempts settings source work declarations).2 (attempts settings source again declarations).2 ∧
      (attempts settings source again declarations).1.files.working = again.files.working ∧
      ∀ names, (attempts settings source again declarations).1.files.shape? names = again.files.shape? names := by
  induction declarations generalizing work again with
  | nil => exact ⟨.nil, rfl, fun _ => rfl⟩
  | cons declaration others ih =>
      obtain ⟨first, othersForward⟩ := List.forall_mem_cons.mp forward
      unfold attempts at later ⊢
      cases isClass : declaration.kind.isClassLike with
      | true =>
          simp only [isClass, if_true] at later ⊢
          have isForward := first isClass
          have attemptLinkFree := (source.attemptOf_changes work declaration).linkFree linkFree
          have attemptLinkFreeAgain := (source.attemptOf_changes again declaration).linkFree linkFreeAgain
          have nextLinkFree : (source.attempted settings work declaration).files.LinkFree :=
            linkFree_attempted isForward linkFree
          have announced := later_announced settings source again declaration
          have between := ((later_behind settings source work declaration).trans
            (later_attempts othersForward nextLinkFree)).trans (later.trans announced)
          have sameDeclaration : (source.attemptOf again declaration).declaration =
            (source.attemptOf work declaration).declaration := rfl
          obtain ⟨same, shapes⟩ :=
            Attempt.repeats sameDeclaration isForward attemptLinkFree attemptLinkFreeAgain between
          have nextShapes : ∀ names, (source.attempted settings again declaration).files.shape? names =
              again.files.shape? names := by
            intro names
            rw [Source.attempted, Workspace.shape?_log, Source.tried_files, shapes, Source.attemptOf, Source.announce,
              Workspace.shape?_log, Workspace.shape?_log]
          have next : Later settings.outputRoot work.files (source.attempted settings work declaration).files :=
            later_attempted isForward linkFree
          have nextAgain : Later settings.outputRoot again.files (source.attempted settings again declaration).files :=
            later_attempted isForward linkFreeAgain
          obtain ⟨repeats, working, othersShapes⟩ := ih othersForward nextLinkFree
            (linkFree_attempted isForward linkFreeAgain) (later.trans nextAgain)
          have announcedFirst := later_announced settings source work declaration
          exact ⟨.cons (same.mono fun holds => announcedFirst.keeps.steady holds) (repeats.imp fun _ _ same => same.mono fun holds =>
            next.keeps.steady holds), working.trans nextAgain.keeps.working,
            fun names => (othersShapes names).trans (nextShapes names)⟩
      | false =>
          simp only [isClass, Bool.false_eq_true, if_false] at later ⊢
          have logged : Later settings.outputRoot again.files (again.log declaration.rejection).files := .log _ _ _
          obtain ⟨repeats, working, shapes⟩ := ih othersForward ((work.log_changes declaration.rejection).linkFree linkFree)
            ((again.log_changes declaration.rejection).linkFree linkFreeAgain) (later.trans logged)
          exact ⟨repeats.imp fun _ _ same => same.mono fun holds =>
              (Later.log settings.outputRoot work _).keeps.steady holds,
            working.trans (again.working_log _), fun names => (shapes names).trans (again.shape?_log _ names)⟩

/-- What a run leaves at a place: what the last attempt wrote that wrote there, and otherwise what was there. -/
theorem face?_attempts (linkFree : work.files.LinkFree) {names : List String} (noLog : ¬ work.LogsTo names) :
    (∀ content, lastStored? settings source work.files names (attempts settings source work declarations).2 = some content →
        (attempts settings source work declarations).1.files.face? names = some (.file content)) ∧
      (lastStored? settings source work.files names (attempts settings source work declarations).2 = none →
        work.files.face? names ≠ none →
        (attempts settings source work declarations).1.files.face? names = work.files.face? names) := by
  induction declarations generalizing work with
  | nil => exact ⟨fun _ never => (by cases never), fun _ _ => rfl⟩
  | cons declaration others ih =>
      obtain ⟨first, othersForward⟩ := List.forall_mem_cons.mp forward
      unfold attempts
      cases isClass : declaration.kind.isClassLike with
      | true =>
          simp only [if_true]
          have noNextLog : ¬ (source.attempted settings work declaration).LogsTo names := by
            rwa [Source.logsTo_attempted]
          obtain ⟨storedFirst, unstoredFirst⟩ := face?_attempted settings source (first isClass) linkFree noLog
          obtain ⟨stored, unstored⟩ := ih othersForward (linkFree_attempted (first isClass) linkFree) noNextLog
          rw [lastStored?_congr (later_attempted (first isClass) linkFree).keeps.working] at stored unstored
          rw [lastStored?]
          cases later : lastStored? settings source work.files names
              (attempts settings source (source.attempted settings work declaration) others).2 with
          | some content =>
              rw [Option.some_or]
              exact ⟨fun other same => Option.some.inj same ▸ stored content later, fun never => (by cases never)⟩
          | none =>
              rw [Option.none_or]
              constructor
              · intro content here
                have face := storedFirst content here
                rw [unstored later (by simp [face]), face]
              · intro nothing something
                have same := unstoredFirst nothing something
                rw [unstored later (same ▸ something), same]
      | false =>
          simp only [Bool.false_eq_true, if_false]
          have noNextLog : ¬ (work.log declaration.rejection).LogsTo names := by rwa [Workspace.logsTo_log]
          obtain ⟨stored, unstored⟩ := ih othersForward ((work.log_changes _).linkFree linkFree) noNextLog
          rw [lastStored?_congr (work.working_log _)] at stored unstored
          have same := Workspace.unlogged_face? noLog declaration.rejection
          rw [same] at unstored
          exact ⟨stored, unstored⟩

/-- A run that is made again where the first one ended leaves every place as it is, but for the log. -/
theorem face?_attempts_again (linkFree : work.files.LinkFree) (linkFreeAgain : again.files.LinkFree)
    (later : Later settings.outputRoot (attempts settings source work declarations).1.files again.files)
    {names : List String} (noLog : ¬ work.LogsTo names) (noLogAgain : ¬ again.LogsTo names)
    (same : again.files.face? names = (attempts settings source work declarations).1.files.face? names) :
    (attempts settings source again declarations).1.files.face? names = again.files.face? names := by
  obtain ⟨repeats, -, shapes⟩ := attempts_again forward linkFree linkFreeAgain later
  have working : again.files.working = work.files.working :=
    later.keeps.working.trans (later_attempts forward linkFree).keeps.working
  have sameStored : lastStored? settings source again.files names (attempts settings source again declarations).2 =
      lastStored? settings source work.files names (attempts settings source work declarations).2 := by
    rw [lastStored?_congr working, lastStored?_of_repeats repeats]
  obtain ⟨stored, -⟩ := face?_attempts forward linkFree noLog
  obtain ⟨storedAgain, unstoredAgain⟩ := face?_attempts forward linkFreeAgain noLogAgain
  cases last : lastStored? settings source work.files names (attempts settings source work declarations).2 with
  | some content => rw [same, stored content last, storedAgain content (sameStored.trans last)]
  | none =>
      by_cases missing : again.files.face? names = none
      · rw [missing, ← FileSystem.shape?_eq_none, shapes, FileSystem.shape?_eq_none, missing]
      · exact unstoredAgain (sameStored.trans last) missing

end Run

/-- What does not depend on diagnostics is the same behind a round. -/
theorem Round.sourceBehind_eq {α : Type} {f : Source → α}
    (same : ∀ source declaration message, f (Source.report source declaration message) = f source) (source : Source)
    (declarations : List Declaration) : f (Round.sourceBehind source declarations) = f source := by
  induction declarations generalizing source with
  | nil => simp [Round.sourceBehind]
  | cons declaration others ih =>
      cases isClass : declaration.kind.isClassLike with
      | true =>
          have skipped : Round.sourceBehind source (declaration :: others) = Round.sourceBehind source others := by
            simp [Round.sourceBehind, isClass]
          rw [skipped, ih]
      | false => rw [← Round.sourceBehind_report _ _ _ isClass, ih, same]

/-- Two rounds of which the second does what the first did: it reports the same, but for the causes that a file in the way
can have, and without exception if the output root was steady; and it leaves every place as it is, but for the content of
the log. -/
structure Round.Repeats (steady : Prop) (logs : List String → Prop) (first again : Round) : Prop where
  claimed : again.report.claimed = first.report.claimed
  generated : again.report.generated = first.report.generated
  rejected : again.report.rejected = first.report.rejected
  failures : again.report.failures.map Failure.coarse = first.report.failures.map Failure.coarse
  report : steady → again.report = first.report
  working : again.work.files.working = first.work.files.working
  files : ∀ names, ¬ logs names → again.work.files.face? names = first.work.files.face? names
  shapes : ∀ names, again.work.files.shape? names = first.work.files.shape? names

/-- The reports of two loops of which the second repeats the first: the same was written, and the failures are the same, but
for the causes that a file in the way can have. -/
theorem Round.reportBehind_again {steady : Prop} {made madeAgain : List Attempt} (report : RoundReport)
    (declarations : List Declaration) (repeats : List.Forall₂ (Attempt.Repeats settings source steady) made madeAgain) :
    (reportBehind settings source report declarations madeAgain).generated =
        (reportBehind settings source report declarations made).generated ∧
      (reportBehind settings source report declarations madeAgain).failures.map Failure.coarse =
        (reportBehind settings source report declarations made).failures.map Failure.coarse ∧
      (steady → reportBehind settings source report declarations madeAgain =
        reportBehind settings source report declarations made) := by
  have written := filterMap_of_repeats (fun _ _ same => same.written?_eq) repeats
  have coarse := filterMap_of_repeats (fun _ _ same => same.coarse_failure?) repeats
  refine ⟨congrArg (report.generated ++ ·) written, ?_, fun holds => ?_⟩
  · simpa only [reportBehind, List.map_append, List.map_filterMap, List.append_cancel_left_eq] using coarse
  · have failures := filterMap_of_repeats (fun _ _ same => same.failure?_eq holds) repeats
    unfold reportBehind
    rw [written, failures]

/-- A round repeats another if its loop starts again where the loop of that ended. -/
theorem Round.repeats_of_loops {work : Workspace} {first again : Round} {event eventAgain : Log.Event}
    (linkFree : work.files.LinkFree)
    (forward : ∀ found ∈ source.declarationsWith settings.marker, found.kind.isClassLike → found.IsForward)
    (firstReport : first.report = reportBehind settings source .begun (source.declarationsWith settings.marker)
      (source.attempts settings work))
    (firstWork : first.work = (attempts settings source (source.begun settings work)
      (source.declarationsWith settings.marker)).1.log event)
    (report : again.report = reportBehind settings source .begun (source.declarationsWith settings.marker)
      (source.attempts settings first.work))
    (workAgain : again.work = (attempts settings source (source.begun settings first.work)
      (source.declarationsWith settings.marker)).1.log eventAgain) :
    first.Repeats (work.files.Steady settings.outputRoot) work.LogsTo again := by
  have begun : Later settings.outputRoot work.files (source.begun settings work).files := .log _ _ _
  have begunLinkFree := (source.begun_changes settings work).linkFree linkFree
  have between : Later settings.outputRoot (attempts settings source (source.begun settings work)
      (source.declarationsWith settings.marker)).1.files (source.begun settings first.work).files := by
    rw [firstWork]
    exact (Later.log _ _ _).trans (Later.log _ _ _)
  have againLinkFree : (source.begun settings first.work).files.LinkFree := by
    refine (source.begun_changes settings first.work).linkFree ?_
    rw [firstWork]
    exact (Workspace.log_changes _ _).linkFree (linkFree_attempts forward begunLinkFree)
  have logs : first.work.LogsTo = work.LogsTo := by
    rw [firstWork, Workspace.logsTo_log, logsTo_attempts, Source.logsTo_begun]
  obtain ⟨loop, working, shapes⟩ := attempts_again forward begunLinkFree againLinkFree between
  have repeats : List.Forall₂ (Attempt.Repeats settings source ((source.begun settings work).files.Steady
      settings.outputRoot)) (source.attempts settings work) (source.attempts settings first.work) := loop
  obtain ⟨generated, failures, exactly⟩ :=
    reportBehind_again .begun (source.declarationsWith settings.marker) repeats
  rw [← report, ← firstReport] at generated failures exactly
  constructor
  · rw [report, firstReport]
    rfl
  · exact generated
  · rw [report, firstReport]
    rfl
  · exact failures
  · exact fun steady => exactly (begun.keeps.steady steady)
  · rw [workAgain, Workspace.working_log, working]
    exact Workspace.working_log _ _
  · intro names noLog
    have noBegunLog : ¬ (source.begun settings work).LogsTo names := by rwa [Source.logsTo_begun]
    have noLoopLog : ¬ (attempts settings source (source.begun settings work)
        (source.declarationsWith settings.marker)).1.LogsTo names := by rwa [logsTo_attempts]
    have noFirstLog : ¬ first.work.LogsTo names := by rwa [logs]
    have noAgainLog : ¬ (source.begun settings first.work).LogsTo names := by rwa [Source.logsTo_begun]
    have noLoopAgainLog : ¬ (attempts settings source (source.begun settings first.work)
        (source.declarationsWith settings.marker)).1.LogsTo names := by rwa [logsTo_attempts]
    have start : (source.begun settings first.work).files.face? names = first.work.files.face? names :=
      Workspace.unlogged_face? noFirstLog _
    have loopStart : (source.begun settings first.work).files.face? names = (attempts settings source
        (source.begun settings work) (source.declarationsWith settings.marker)).1.files.face? names := by
      rw [start, firstWork, Workspace.unlogged_face? noLoopLog]
    rw [workAgain, Workspace.unlogged_face? noLoopAgainLog,
      face?_attempts_again forward begunLinkFree againLinkFree between noBegunLog noAgainLog loopStart, start]
  · intro names
    rw [workAgain, Workspace.shape?_log, shapes]
    exact Workspace.shape?_log _ _ _

namespace Driver

/-- What a further round over a source comes to, if it finds something. -/
theorem exists_run_behind (driver : Driver) {source : Source} (work : Workspace)
    (some : source.declarationsWith driver.settings.marker ≠ []) (declarations : List Declaration) :
    ∃ event, (driver.run (Round.sourceBehind source declarations) work).report =
        Round.reportBehind driver.settings source .begun (source.declarationsWith driver.settings.marker)
          (source.attempts driver.settings work) ∧
      (driver.run (Round.sourceBehind source declarations) work).work =
        (attempts driver.settings source (source.begun driver.settings work)
          (source.declarationsWith driver.settings.marker)).1.log event := by
  have someBehind : (Round.sourceBehind source declarations).declarationsWith driver.settings.marker ≠ [] := some
  have sameAttempts : attempts driver.settings (Round.sourceBehind source declarations) =
      attempts driver.settings source :=
    Round.sourceBehind_eq (f := attempts driver.settings) (fun source declaration message => by
      funext work declarations
      exact attempts_report work declaration message declarations) source declarations
  have sameWritten : Attempt.written? driver.settings (Round.sourceBehind source declarations) =
      Attempt.written? driver.settings source :=
    Round.sourceBehind_eq (fun _ => Round.written?_report) source declarations
  have sameFailure : Attempt.failure? driver.settings (Round.sourceBehind source declarations) =
      Attempt.failure? driver.settings source :=
    Round.sourceBehind_eq (fun _ => Round.failure?_report) source declarations
  obtain ⟨event, ran⟩ := run_of_some driver work someBehind
  refine ⟨event, ?_, ?_⟩
  · rw [ran]
    unfold Round.reportBehind Source.attempts
    rw [sameAttempts, sameWritten, sameFailure]
    rfl
  · rw [ran]
    dsimp only
    rw [sameAttempts]
    rfl

/-- A round that is run again repeats the first one. -/
theorem run_again (driver : Driver) {source : Source} {work : Workspace} (linkFree : work.files.LinkFree)
    (forward : ∀ found ∈ source.marked driver.settings.marker, found.IsForward) :
    let first := driver.run source work
    first.Repeats (work.files.Steady driver.settings.outputRoot) work.LogsTo
      (first.driver.run first.source first.work) := by
  intro first
  by_cases nothing : source.declarationsWith driver.settings.marker = []
  · have ran : first = _ := run_of_nothing nothing
    have ranAgain : (Driver.mk driver.settings .idle).run source (work.log (.nothingAnnotated driver.settings.marker)) =
      _ := run_of_nothing nothing
    rw [ran]
    dsimp only
    rw [ranAgain]
    exact ⟨rfl, rfl, rfl, rfl, fun _ => rfl, Workspace.working_log _ _,
      fun names noLog => Workspace.unlogged_face? (by rwa [Workspace.logsTo_log]) _, Workspace.shape?_log _ _⟩
  · obtain ⟨event, ran⟩ := run_of_some driver work nothing
    have ran : first = _ := ran
    obtain ⟨eventAgain, report, workAgain⟩ := exists_run_behind ⟨driver.settings, .idle⟩ first.work nothing
      (source.declarationsWith driver.settings.marker)
    have areForward : ∀ found ∈ source.declarationsWith driver.settings.marker, found.kind.isClassLike →
        found.IsForward := fun found member isClass => forward found (by simp [Source.marked, member, isClass])
    have waiting : first.driver = ⟨driver.settings, .idle⟩ := by rw [ran]
    have behind : first.source = Round.sourceBehind source (source.declarationsWith driver.settings.marker) := by rw [ran]
    dsimp only at report workAgain
    rw [← waiting, ← behind] at report workAgain
    have firstReport : first.report = Round.reportBehind driver.settings source .begun
        (source.declarationsWith driver.settings.marker) (source.attempts driver.settings work) := by rw [ran]
    have firstWork : first.work = (attempts driver.settings source (source.begun driver.settings work)
        (source.declarationsWith driver.settings.marker)).1.log event := by rw [ran]
    exact Round.repeats_of_loops linkFree areForward firstReport firstWork report workAgain

/-- Where the output root holds a file with the name of a module, the class of that module fails again. -/
theorem run_again_twins :
    let driver : Driver := .ofSettings ⟨⟨"."⟩, "extract_field", .rust⟩
    let first := driver.run (twins "f" "g") (.ofFiles loneFile)
    first.Repeats (loneFile.Steady ⟨"."⟩) (Workspace.ofFiles loneFile).LogsTo
      (first.driver.run first.source first.work) := by
  intro driver
  have linkFree : (Workspace.ofFiles loneFile).files.LinkFree := linkFree_loneFile
  have forward : ∀ found ∈ (twins "f" "g").marked driver.settings.marker, found.IsForward := by decide
  exact run_again driver linkFree forward

/-- The causes are not the same again. Where a `..` of the output root leaves a place at which there is nothing, the first
round makes a directory there before it fails, and so the second one fails further on. -/
theorem not_forall_failures_again :
    ¬ ∀ (driver : Driver) (source : Source) (work : Workspace), work.files.LinkFree →
      (∀ found ∈ source.marked driver.settings.marker, '/' ∉ found.name.toList ∧ found.name ≠ "." ∧ found.name ≠ ".." ∧
        ∀ segment ∈ found.space.segments, '/' ∉ segment.toList ∧ segment ≠ "." ∧ segment ≠ "..") →
      let first := driver.run source work
      (first.driver.run first.source first.work).report.failures = first.report.failures := by
  intro always
  have same := always (.ofSettings ⟨⟨"missing/../f"⟩, "extract_field", .rust⟩) (twins "a" "b") (.ofFiles loneFile)
    linkFree_loneFile (by decide)
  revert same
  decide +kernel

end Driver

end Companion
