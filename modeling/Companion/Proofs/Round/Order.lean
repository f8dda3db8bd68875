import Companion.Proofs.Emission.Growth
import Companion.Proofs.Round.Effects

/-!
Rounds over the same declarations in another order. Each class comes to what it would come to if it were the only one:
what the others make and write is never in its way. So two rounds leave like trees, and their reports hold the same,
each in the order of its declarations.
-/

set_option autoImplicit false

namespace Companion

open FileSystem (Grown OnWay Steady)

namespace FileSystem

/-- Appending changes the content of a file, if there is one, and nothing else. -/
theorem face?_append (files : FileSystem) (names : List String) (text : String) (other : List String) :
    (files.append names text).face? other = files.face? other ∨
      (other = names ∧ (files.append names text).shape? other = some .file ∧ files.shape? other = some .file) := by
  unfold append
  split
  · rename_i content found
    have fits := fits_of_file found
    have faces := fun place => face?_put (Node.isLeaf_file (content ++ text.toUTF8)) fits place
    by_cases same : other = names
    · subst same
      have isFile : files.face? other = some (.file content) := by rw [face?_eq_map, found]; rfl
      refine .inr ⟨rfl, ?_, shape?_eq_file.mpr ⟨content, isFile⟩⟩
      rw [shape?, faces, if_pos rfl]
      rfl
    · exact .inl (by rw [faces, if_neg same])
  · exact .inl rfl

theorem working_append (files : FileSystem) (names : List String) (text : String) :
    (files.append names text).working = files.working := by
  unfold append
  split <;> rfl

end FileSystem

/-- Logging changes the content of the log, if it is a file, and nothing else. -/
theorem Workspace.face?_log (work : Workspace) (event : Log.Event) (names : List String) :
    (work.log event).files.face? names = work.files.face? names ∨
      (work.LogsTo names ∧ (work.log event).files.shape? names = some .file ∧ work.files.shape? names = some .file) := by
  unfold log
  split
  · dsimp only
    split
    · exact .inl rfl
    · exact .inl rfl
    · rename_i place target
      obtain same | ⟨rfl, isFile, wasFile⟩ := work.files.face?_append place _ names
      · exact .inl same
      · exact .inr ⟨target, isFile, wasFile⟩
  · exact .inl rfl

theorem Workspace.unlogged_face? {work : Workspace} {names : List String} (noLog : ¬ work.LogsTo names) (event : Log.Event) :
    (work.log event).files.face? names = work.files.face? names := by
  obtain same | ⟨logs, -⟩ := work.face?_log event names
  · exact same
  · exact absurd logs noLog

theorem Workspace.working_log (work : Workspace) (event : Log.Event) :
    (work.log event).files.working = work.files.working := by
  unfold log
  split
  · dsimp only
    split
    · rfl
    · rfl
    · exact FileSystem.working_append _ _ _
  · rfl

theorem Workspace.shape?_log (work : Workspace) (event : Log.Event) (names : List String) :
    (work.log event).files.shape? names = work.files.shape? names := by
  obtain same | ⟨-, isFile, wasFile⟩ := work.face?_log event names
  · rw [FileSystem.shape?, FileSystem.shape?, same]
  · rw [isFile, wasFile]

structure Task where
  kind : DeclarationKind
  metadata : Metadata

namespace Source

def taskOf (source : Source) (declaration : Declaration) : Task :=
  ⟨declaration.kind, source.metadata declaration⟩

def tasks (source : Source) (marker : String) : List Task :=
  (source.declarationsWith marker).map source.taskOf

@[simp] theorem kind_taskOf (source : Source) (declaration : Declaration) :
    (source.taskOf declaration).kind = declaration.kind := rfl

end Source

namespace Task

def qualifiedName (task : Task) : String :=
  task.metadata.space.qualify task.metadata.name

def path (settings : Settings) (task : Task) : FilePath :=
  task.metadata.synthesize.outputPath settings.outputRoot settings.language.extension

def attempt (settings : Settings) (files : FileSystem) (task : Task) : FileSystem × Except GenerateError FilePath :=
  task.metadata.synthesize.emit settings.language settings.outputRoot files

/-- Whether a class has a plain name and stands in modules of plain names. -/
structure IsPlain (task : Task) : Prop where
  name : Companion.IsPlain task.metadata.name
  segments : ∀ segment ∈ task.metadata.space.segments, Companion.IsPlain segment

def generated? (settings : Settings) (files : FileSystem) (task : Task) : Option FilePath :=
  if task.kind.isClassLike then
    match (task.attempt settings files).2 with
    | .ok path => some path
    | .error _ => none
  else none

def failure? (settings : Settings) (files : FileSystem) (task : Task) : Option Failure :=
  if task.kind.isClassLike then
    match (task.attempt settings files).2 with
    | .ok _ => none
    | .error error => some ⟨task.qualifiedName, error⟩
  else none

def rejected? (task : Task) : Option String :=
  if task.kind.isClassLike then none else some task.qualifiedName

end Task

def Failure.coarse (failure : Failure) : Failure :=
  ⟨failure.declaration, failure.error.coarse⟩

theorem Task.IsPlain.companion {task : Task} (plain : task.IsPlain) (settings : Settings) :
    task.metadata.synthesize.IsPlain settings.language := by
  let declaration : Declaration := ⟨0, task.metadata.name, task.metadata.space, task.kind, none⟩
  have isName : IsName ((Source.empty.companion declaration).fileName settings.language.extension) :=
    isName_fileName plain.name.slash plain.name.null
  refine ⟨plain.segments, isName, ?_⟩
  simp [CompanionType.fileName]

namespace Task

variable {settings : Settings} {base : FileSystem} {task other : Task}

def Writes (settings : Settings) (base : FileSystem) (task : Task) : Prop :=
  ∃ path, (task.attempt settings base).2 = .ok path

def OnWay (settings : Settings) (base : FileSystem) (task : Task) (names : List String) : Prop :=
  ∃ directory, task.metadata.synthesize.Houses settings.language settings.outputRoot directory ∧
    base.OnWay directory names

/-- Different classes of plain names have different places. -/
theorem IsPlain.eq_of_placeOf (plain : task.IsPlain) (otherPlain : other.IsPlain)
    (same : base.placeOf (task.path settings) = base.placeOf (other.path settings)) :
    task.metadata.space = other.metadata.space ∧ task.metadata.name = other.metadata.name := by
  unfold path at same
  rw [(plain.companion settings).placeOf_eq, (otherPlain.companion settings).placeOf_eq, List.append_assoc,
    List.append_assoc] at same
  obtain ⟨segments, files⟩ := List.append_inj' (List.append_cancel_left same) rfl
  have spaces : task.metadata.space = other.metadata.space := Namespace.ext segments
  have names : "ExtractField" ++ task.metadata.name ++ "." ++ settings.language.extension =
      "ExtractField" ++ other.metadata.name ++ "." ++ settings.language.extension := List.singleton_inj.mp files
  refine ⟨spaces, String.toList_injective ?_⟩
  have chars := congrArg String.toList names
  simpa using chars

end Task

/-- A tree in which several classes have come to what each of them comes to alone: their files are there, so are the
directories on the way to them, and nothing else has changed but the log. -/
structure Settled (settings : Settings) (base : FileSystem) (logs : List String → Prop) (done : List Task)
    (files : FileSystem) : Prop where
  grown : Grown settings.outputRoot base files
  written : ∀ task ∈ done, task.Writes settings base → ¬ logs (base.placeOf (task.path settings)) →
    files.face? (base.placeOf (task.path settings)) =
      some (.file (task.metadata.synthesize.render settings.language).toUTF8)
  made : ∀ task ∈ done, ∀ names, base.face? names = none → task.OnWay settings base names →
    files.face? names = some .directory
  kept : ∀ names, ¬ logs names → (∀ task ∈ done, task.Writes settings base → names ≠ base.placeOf (task.path settings)) →
    (base.face? names = none → ∀ task ∈ done, ¬ task.OnWay settings base names) → files.face? names = base.face? names

namespace Settled

variable {settings : Settings} {base files after : FileSystem} {logs otherLogs : List String → Prop} {done others : List Task}

theorem refl (settings : Settings) (files : FileSystem) (logs : List String → Prop) :
    Settled settings files logs [] files :=
  ⟨.refl _ _, by simp, by simp, fun _ _ _ _ => rfl⟩

theorem log {work : Workspace} (settled : Settled settings base logs done work.files) (isLog : work.LogsTo = logs)
    (event : Log.Event) : Settled settings base logs done (work.log event).files := by
  subst isLog
  refine ⟨settled.grown.alike (work.working_log event) (work.shape?_log event), ?_, ?_, ?_⟩
  · intro task member writes noLog
    rw [Workspace.unlogged_face? noLog]
    exact settled.written task member writes noLog
  · intro task member names missing onWay
    have isDirectory := settled.made task member names missing onWay
    rw [← FileSystem.shape?_eq_directory] at isDirectory ⊢
    rw [work.shape?_log event, isDirectory]
  · intro names noLog elsewhere offWay
    rw [Workspace.unlogged_face? noLog]
    exact settled.kept names noLog elsewhere offWay

/-- Trees that have come from one by the same classes are alike, but for the logs. -/
theorem face?_eq (settled : Settled settings base logs done files) (otherSettled : Settled settings base otherLogs others after)
    (same : ∀ task, task ∈ done ↔ task ∈ others) {names : List String} (noLog : ¬ logs names) (noOtherLog : ¬ otherLogs names) :
    files.face? names = after.face? names := by
  by_cases isFile : ∃ task ∈ done, task.Writes settings base ∧ names = base.placeOf (task.path settings)
  · obtain ⟨task, member, writes, rfl⟩ := isFile
    rw [settled.written task member writes noLog, otherSettled.written task ((same task).mp member) writes noOtherLog]
  · have elsewhere : ∀ task ∈ done, task.Writes settings base → names ≠ base.placeOf (task.path settings) :=
      fun task member writes atPlace => isFile ⟨task, member, writes, atPlace⟩
    by_cases isMade : base.face? names = none ∧ ∃ task ∈ done, task.OnWay settings base names
    · obtain ⟨missing, task, member, onWay⟩ := isMade
      rw [settled.made task member names missing onWay, otherSettled.made task ((same task).mp member) names missing onWay]
    · have offWay : base.face? names = none → ∀ task ∈ done, ¬ task.OnWay settings base names :=
        fun missing task member onWay => isMade ⟨missing, task, member, onWay⟩
      rw [settled.kept names noLog elsewhere offWay,
        otherSettled.kept names noOtherLog (fun task member => elsewhere task ((same task).mpr member))
          fun missing task member => offWay missing task ((same task).mpr member)]

end Settled

section Attempt

variable {settings : Settings} {base files : FileSystem} {logs : List String → Prop} {done : List Task} {task : Task}

/-- What is reported of a class that comes after others is what is reported of it alone. -/
theorem Settled.attempt_outcome (settled : Settled settings base logs done files) (linkFree : base.LinkFree)
    (plain : task.IsPlain) :
    (task.attempt settings files).2.mapError GenerateError.coarse =
        (task.attempt settings base).2.mapError GenerateError.coarse ∧
      (base.Steady settings.outputRoot → (task.attempt settings files).2 = (task.attempt settings base).2) := by
  have companion := plain.companion settings
  obtain ⟨directory, houses⟩ := CompanionType.exists_houses settings.outputRoot companion.isName.isEntry
  obtain ⟨_, emits⟩ := CompanionType.exists_emits (settled.grown.linkFree linkFree) companion.isName.isEntry houses
  obtain ⟨_, earlierEmits⟩ := CompanionType.exists_emits linkFree companion.isName.isEntry houses
  exact companion.emit_outcome settled.grown houses emits earlierEmits

/-- The way to a companion is the same after other classes. -/
theorem Settled.onWay_iff (settled : Settled settings base logs done files) (plain : task.IsPlain) {directory : FilePath}
    (houses : task.metadata.synthesize.Houses settings.language settings.outputRoot directory) (names : List String) :
    task.OnWay settings base names ↔ files.OnWay directory names := by
  rw [((plain.companion settings).lies houses).onWay_iff settled.grown]
  constructor
  · rintro ⟨other, otherHouses, onWay⟩
    have same := otherHouses.isParent.symm.trans houses.isParent
    rwa [Option.some.inj same] at onWay
  · exact fun onWay => ⟨directory, houses, onWay⟩

/-- The directories on the way to a companion have been made where nothing was before all classes. -/
theorem Settled.made_on_way (settled : Settled settings base logs done files) (linkFree : base.LinkFree) (plain : task.IsPlain)
    {names : List String} (missing : base.face? names = none) (onWay : task.OnWay settings base names) :
    (task.attempt settings files).1.face? names = some .directory := by
  have companion := plain.companion settings
  obtain ⟨directory, houses⟩ := CompanionType.exists_houses settings.outputRoot companion.isName.isEntry
  obtain ⟨made, emits⟩ := CompanionType.exists_emits (settled.grown.linkFree linkFree) companion.isName.isEntry houses
  have onWayNow := (settled.onWay_iff plain houses names).mp onWay
  by_cases missingNow : files.face? names = none
  · exact emits.leaves.made names missingNow onWayNow
  · have lies := companion.lies houses
    have isMade := lies.made_of_onWay ((lies.onWay_iff settled.grown).mp onWayNow)
    obtain same | ⟨-, -, ⟨isDirectory, -⟩ | ⟨-, filed⟩⟩ := settled.grown.shapes names
    · rw [FileSystem.shape?_eq_none.mpr missing, FileSystem.shape?_eq_none] at same
      exact absurd same missingNow
    · exact emits.directory_stays (FileSystem.shape?_eq_directory.mp isDirectory)
    · exact absurd isMade (FileSystem.not_made_of_filed filed)

/-- A class that comes after others leaves what it leaves alone. -/
theorem Settled.attempt (settled : Settled settings base logs done files) (linkFree : base.LinkFree) (plain : task.IsPlain)
    (apart : ∀ other ∈ done, other.IsPlain ∧
      ¬ (other.metadata.space = task.metadata.space ∧ other.metadata.name = task.metadata.name)) :
    Settled settings base logs (done ++ [task]) (task.attempt settings files).1 := by
  have companion := plain.companion settings
  obtain ⟨directory, houses⟩ := CompanionType.exists_houses settings.outputRoot companion.isName.isEntry
  obtain ⟨made, emits⟩ := CompanionType.exists_emits (settled.grown.linkFree linkFree) companion.isName.isEntry houses
  have leaves := emits.leaves
  have samePlace : files.placeOf (task.path settings) = base.placeOf (task.path settings) :=
    congrFun (FileSystem.placeOf_congr settled.grown.working) (task.path settings)
  have writes_iff : (∃ path, (task.attempt settings files).2 = .ok path) ↔ task.Writes settings base :=
    isOk_of_coarse (settled.attempt_outcome linkFree plain).1
  refine ⟨companion.grown_emit settled.grown houses linkFree emits, ?_, ?_, ?_⟩
  · intro other member writes noLog
    obtain isDone | isTask := List.mem_append.mp member
    · have isFile := settled.written other isDone writes noLog
      obtain ⟨otherPlain, different⟩ := apart other isDone
      exact (leaves.kept _ (fun _ same => different (otherPlain.eq_of_placeOf plain (same.trans samePlace)))
        (.inl (by simp [isFile]))).trans isFile
    · obtain rfl := List.mem_singleton.mp isTask
      rw [← samePlace]
      exact leaves.file (writes_iff.mpr writes)
  · intro other member names missing onWay
    obtain isDone | isTask := List.mem_append.mp member
    · exact emits.directory_stays (settled.made other isDone names missing onWay)
    · obtain rfl := List.mem_singleton.mp isTask
      exact settled.made_on_way linkFree plain missing onWay
  · intro names noLog elsewhere offWay
    have before := settled.kept names noLog (fun other isDone => elsewhere other (List.mem_append_left _ isDone))
      fun missing other isDone => offWay missing other (List.mem_append_left _ isDone)
    rw [← before]
    refine leaves.kept names (fun written atPlace => ?_) ?_
    · exact elsewhere task (by simp) (writes_iff.mp written) (atPlace.trans samePlace)
    · by_cases missing : files.face? names = none
      · have missingBefore := settled.grown.missing_before (FileSystem.shape?_eq_none.mpr missing)
        exact .inr fun onWay => offWay (FileSystem.shape?_eq_none.mp missingBefore) task (by simp)
          ((settled.onWay_iff plain houses names).mpr onWay)
      · exact .inl missing

end Attempt

section Run

variable {settings : Settings} {source : Source} {base : FileSystem} {work : Workspace} {logs : List String → Prop}
  {done : List Task} {declarations : List Declaration}

/-- Whether two classes have the same name in the same namespace. -/
def Task.Namesakes (task other : Task) : Prop :=
  task.metadata.space = other.metadata.space ∧ task.metadata.name = other.metadata.name

/-- What a run over declarations comes to, if each class comes to what it comes to alone. -/
structure Agrees (settings : Settings) (source : Source) (base : FileSystem) (logs : List String → Prop) (work : Workspace)
    (done : List Task) (declarations : List Declaration) : Prop where
  settled : Settled settings base logs (done ++ (declarations.map source.taskOf).filter (·.kind.isClassLike))
    (attempts settings source work declarations).1.files
  generated : (attempts settings source work declarations).2.filterMap (Attempt.written? settings source) =
    (declarations.map source.taskOf).filterMap (Task.generated? settings base)
  failures : ((attempts settings source work declarations).2.filterMap (Attempt.failure? settings source)).map
      Failure.coarse = ((declarations.map source.taskOf).filterMap (Task.failure? settings base)).map Failure.coarse
  causes : base.Steady settings.outputRoot →
    (attempts settings source work declarations).2.filterMap (Attempt.failure? settings source) =
      (declarations.map source.taskOf).filterMap (Task.failure? settings base)

section One

variable {declaration : Declaration}

theorem Settled.announce (settled : Settled settings base work.LogsTo done work.files) (source : Source)
    (declaration : Declaration) :
    Settled settings base work.LogsTo done (source.announce work declaration).files := by
  have first := settled.log rfl (source.readEvent declaration)
  exact first.log (work.logsTo_log _) (.typeSynthesized (source.companion declaration).name
    (source.companion declaration).properties.length (source.companion declaration).methodCount)

theorem Source.result_attemptOf (source : Source) (work : Workspace) (declaration : Declaration) :
    (source.attemptOf work declaration).result settings source =
      (source.taskOf declaration).attempt settings (source.announce work declaration).files := rfl

variable (settled : Settled settings base work.LogsTo done work.files) (linkFree : base.LinkFree)
  (plain : (source.taskOf declaration).IsPlain)

include settled linkFree plain

/-- A class that is dealt with after others leaves what it leaves alone. -/
theorem Settled.attempted (apart : ∀ other ∈ done, other.IsPlain ∧ ¬ other.Namesakes (source.taskOf declaration)) :
    Settled settings base work.LogsTo (done ++ [source.taskOf declaration])
      (source.attempted settings work declaration).files := by
  have tried : Settled settings base work.LogsTo (done ++ [source.taskOf declaration])
      (source.tried settings work declaration).files := by
    rw [Source.tried_files, Source.result_attemptOf]
    exact (settled.announce source declaration).attempt linkFree plain apart
  exact tried.log Source.logsTo_tried ((source.attemptOf work declaration).event settings source)

variable (isClass : declaration.kind.isClassLike = true)

include isClass

theorem Settled.written?_eq :
    (source.attemptOf work declaration).written? settings source = (source.taskOf declaration).generated? settings base := by
  have outcome := ((settled.announce source declaration).attempt_outcome linkFree plain).1
  unfold Attempt.written? Task.generated?
  rw [Source.result_attemptOf, Source.kind_taskOf, if_pos isClass]
  cases now : ((source.taskOf declaration).attempt settings (source.announce work declaration).files).2 with
  | ok path =>
      cases alone : ((source.taskOf declaration).attempt settings base).2 with
      | ok other =>
          rw [now, alone] at outcome
          exact congrArg some (Except.ok.inj outcome)
      | error error =>
          rw [now, alone] at outcome
          cases outcome
  | error error =>
      cases alone : ((source.taskOf declaration).attempt settings base).2 with
      | ok other =>
          rw [now, alone] at outcome
          cases outcome
      | error other => rfl

theorem Settled.coarse_failure? :
    ((source.attemptOf work declaration).failure? settings source).map Failure.coarse =
      ((source.taskOf declaration).failure? settings base).map Failure.coarse := by
  have outcome := ((settled.announce source declaration).attempt_outcome linkFree plain).1
  unfold Attempt.failure? Task.failure?
  rw [Source.result_attemptOf, Source.kind_taskOf, if_pos isClass]
  cases now : ((source.taskOf declaration).attempt settings (source.announce work declaration).files).2 with
  | ok path =>
      cases alone : ((source.taskOf declaration).attempt settings base).2 with
      | ok other => rfl
      | error error =>
          rw [now, alone] at outcome
          cases outcome
  | error error =>
      cases alone : ((source.taskOf declaration).attempt settings base).2 with
      | ok other =>
          rw [now, alone] at outcome
          cases outcome
      | error other =>
          rw [now, alone] at outcome
          exact congrArg (fun coarse => some (Failure.mk declaration.qualifiedName coarse)) (Except.error.inj outcome)

theorem Settled.failure?_eq (steady : base.Steady settings.outputRoot) :
    (source.attemptOf work declaration).failure? settings source = (source.taskOf declaration).failure? settings base := by
  have outcome := ((settled.announce source declaration).attempt_outcome linkFree plain).2 steady
  unfold Attempt.failure? Task.failure?
  rw [Source.result_attemptOf, Source.kind_taskOf, if_pos isClass, outcome]
  cases ((source.taskOf declaration).attempt settings base).2 with
  | ok path => rfl
  | error error => rfl

end One

theorem agrees (linkFree : base.LinkFree) (isLog : work.LogsTo = logs) (settled : Settled settings base logs done work.files)
    (plain : ∀ task ∈ done ++ (declarations.map source.taskOf).filter (·.kind.isClassLike), task.IsPlain)
    (distinct : (done ++ (declarations.map source.taskOf).filter (·.kind.isClassLike)).Pairwise
      fun task other => ¬ task.Namesakes other) :
    Agrees settings source base logs work done declarations := by
  induction declarations generalizing work done with
  | nil => exact ⟨by simpa [attempts] using settled, rfl, rfl, fun _ => rfl⟩
  | cons declaration others ih =>
      cases isClass : declaration.kind.isClassLike with
      | false =>
          have isOther : (source.taskOf declaration).kind.isClassLike = false := isClass
          have logged := settled.log isLog declaration.rejection
          simp only [List.map_cons, List.filter_cons, isOther, Bool.false_eq_true, if_false] at plain distinct
          obtain ⟨rest, generated, failures, causes⟩ := ih ((work.logsTo_log _).trans isLog) logged plain distinct
          constructor
          · simpa [attempts, isClass, isOther] using rest
          · simpa [attempts, isClass, isOther, Task.generated?] using generated
          · simpa [attempts, isClass, isOther, Task.failure?] using failures
          · simpa [attempts, isClass, isOther, Task.failure?] using causes
      | true =>
          have isClassTask : (source.taskOf declaration).kind.isClassLike = true := isClass
          simp only [List.map_cons, List.filter_cons, isClassTask, if_true] at plain distinct
          have taskPlain := plain (source.taskOf declaration) (by simp)
          have apart : ∀ other ∈ done, other.IsPlain ∧ ¬ other.Namesakes (source.taskOf declaration) := fun other member =>
            ⟨plain other (List.mem_append_left _ member),
              (List.pairwise_append.mp distinct).2.2 other member _ (List.mem_cons_self ..)⟩
          subst isLog
          have written := settled.written?_eq linkFree taskPlain isClass
          have coarse := settled.coarse_failure? linkFree taskPlain isClass
          have same := settled.failure?_eq linkFree taskPlain isClass
          have next := settled.attempted linkFree taskPlain apart
          rw [List.append_cons] at plain distinct
          obtain ⟨rest, generated, failures, causes⟩ := ih Source.logsTo_attempted next plain distinct
          rw [← List.append_cons] at rest
          rw [List.map_filterMap, List.map_filterMap] at failures
          constructor
          · simpa only [attempts, isClass, isClassTask, if_true, List.map_cons, List.filter_cons] using rest
          · simp only [attempts, isClass, if_true, List.map_cons, List.filterMap_cons, written, generated]
          · rw [List.map_filterMap, List.map_filterMap]
            simp only [attempts, isClass, if_true, List.map_cons, List.filterMap_cons, coarse, failures]
          · intro steady
            simp only [attempts, isClass, if_true, List.map_cons, List.filterMap_cons, same steady, causes steady]

end Run

/-- A round in which each declaration comes to what it would come to in the tree at the start if it were the only one,
but for the causes that a file in the way can have; and without exception if the output root is steady. -/
structure Round.Independent (settings : Settings) (base : FileSystem) (tasks : List Task) (round : Round) : Prop where
  generated : round.report.generated = tasks.filterMap (Task.generated? settings base)
  rejected : round.report.rejected = tasks.filterMap Task.rejected?
  failures : round.report.failures.map Failure.coarse =
    (tasks.filterMap (Task.failure? settings base)).map Failure.coarse
  causes : base.Steady settings.outputRoot → round.report.failures = tasks.filterMap (Task.failure? settings base)

/-- Two rounds that leave trees alike, but for the logs, and report the same in different orders, but for the causes that
a file in the way can have. -/
structure Round.Permuted (steady : Prop) (logs : List String → Prop) (round other : Round) : Prop where
  working : round.work.files.working = other.work.files.working
  files : ∀ names, ¬ logs names → round.work.files.face? names = other.work.files.face? names
  generated : round.report.generated.Perm other.report.generated
  rejected : round.report.rejected.Perm other.report.rejected
  failures : (round.report.failures.map Failure.coarse).Perm (other.report.failures.map Failure.coarse)
  causes : steady → round.report.failures.Perm other.report.failures

namespace Driver

theorem filterMap_rejected? (source : Source) (declarations : List Declaration) :
    (declarations.map source.taskOf).filterMap Task.rejected? =
      (declarations.filter fun found => !found.kind.isClassLike).map Declaration.qualifiedName := by
  induction declarations with
  | nil => rfl
  | cons declaration others ih =>
      cases isClass : declaration.kind.isClassLike with
      | true => simpa [Task.rejected?, isClass] using ih
      | false =>
          simp only [List.map_cons, List.filterMap_cons, Task.rejected?, Source.kind_taskOf, isClass,
            Bool.false_eq_true, if_false, Bool.not_false, List.filter_cons_of_pos, ih]
          rfl

/-- Where classes have plain names and no two of them the same in one namespace, each comes to what it comes to alone. -/
theorem run_independent (driver : Driver) {source : Source} {work : Workspace} (linkFree : work.files.LinkFree)
    (plain : ∀ task ∈ source.tasks driver.settings.marker, task.kind.isClassLike → task.IsPlain)
    (distinct : ((source.tasks driver.settings.marker).filter (·.kind.isClassLike)).Pairwise
      fun task other => ¬ task.Namesakes other) :
    Settled driver.settings work.files work.LogsTo ((source.tasks driver.settings.marker).filter (·.kind.isClassLike))
        (driver.run source work).work.files ∧
      (driver.run source work).Independent driver.settings work.files (source.tasks driver.settings.marker) := by
  have start := Settled.refl driver.settings work.files work.LogsTo
  by_cases nothing : source.declarationsWith driver.settings.marker = []
  · have noTasks : source.tasks driver.settings.marker = [] := by rw [Source.tasks, nothing, List.map_nil]
    rw [run_of_nothing nothing, noTasks]
    exact ⟨start.log rfl _, rfl, rfl, rfl, fun _ => rfl⟩
  obtain ⟨event, ran⟩ := run_of_some driver work nothing
  rw [ran]
  have arePlain : ∀ task ∈ (source.tasks driver.settings.marker).filter (·.kind.isClassLike), task.IsPlain := by
    intro task member
    obtain ⟨isTask, isClass⟩ := List.mem_filter.mp member
    exact plain task isTask isClass
  have begun : Settled driver.settings work.files work.LogsTo [] (source.begun driver.settings work).files :=
    start.log rfl _
  obtain ⟨settled, generated, failures, causes⟩ := agrees linkFree (source.logsTo_begun _ _) begun arePlain distinct
  have isLog : (attempts driver.settings source (source.begun driver.settings work)
      (source.declarationsWith driver.settings.marker)).1.LogsTo = work.LogsTo := by
    rw [logsTo_attempts, Source.logsTo_begun]
  exact ⟨settled.log isLog event, generated, (filterMap_rejected? source _).symm, failures, causes⟩

/-- Rounds over the same declarations in another order. -/
theorem run_perm {driver otherDriver : Driver} (sameSettings : otherDriver.settings = driver.settings)
    {work otherWork : Workspace} (sameFiles : otherWork.files = work.files) (linkFree : work.files.LinkFree)
    {source other : Source} (perm : (source.tasks driver.settings.marker).Perm (other.tasks driver.settings.marker))
    (plain : ∀ task ∈ source.tasks driver.settings.marker, task.kind.isClassLike → task.IsPlain)
    (distinct : ((source.tasks driver.settings.marker).filter (·.kind.isClassLike)).Pairwise
      fun task other => ¬ task.Namesakes other) :
    (driver.run source work).Independent driver.settings work.files (source.tasks driver.settings.marker) ∧
      (otherDriver.run other otherWork).Independent driver.settings work.files (other.tasks driver.settings.marker) ∧
      (driver.run source work).Permuted (work.files.Steady driver.settings.outputRoot)
        (fun names => work.LogsTo names ∨ otherWork.LogsTo names) (otherDriver.run other otherWork) := by
  have otherPlain : ∀ task ∈ other.tasks driver.settings.marker, task.kind.isClassLike → task.IsPlain :=
    fun task member => plain task (perm.mem_iff.mpr member)
  have otherDistinct : ((other.tasks driver.settings.marker).filter (·.kind.isClassLike)).Pairwise
      fun task other => ¬ task.Namesakes other := by
    refine ((perm.filter _).pairwise_iff ?_).mp distinct
    rintro task other apart ⟨spaces, names⟩
    exact apart ⟨spaces.symm, names.symm⟩
  have first := driver.run_independent linkFree plain distinct
  rw [← sameFiles] at linkFree
  rw [← sameSettings] at otherPlain otherDistinct
  have second := otherDriver.run_independent linkFree otherPlain otherDistinct
  rw [sameSettings, sameFiles] at second
  obtain ⟨settled, independent⟩ := first
  obtain ⟨otherSettled, otherIndependent⟩ := second
  refine ⟨independent, otherIndependent, ?_, ?_, ?_, ?_, ?_, ?_⟩
  · rw [settled.grown.working, otherSettled.grown.working]
  · intro names noLog
    obtain ⟨noFirstLog, noSecondLog⟩ := not_or.mp noLog
    exact settled.face?_eq otherSettled (fun task => (perm.filter _).mem_iff) noFirstLog noSecondLog
  · rw [independent.generated, otherIndependent.generated]
    exact perm.filterMap _
  · rw [independent.rejected, otherIndependent.rejected]
    exact perm.filterMap _
  · rw [independent.failures, otherIndependent.failures]
    exact (perm.filterMap _).map _
  · intro steady
    rw [independent.causes steady, otherIndependent.causes steady]
    exact perm.filterMap _

/-- A source of two classes of one name in the modules of two names. -/
def twins (first second : String) : Source :=
  ((Source.empty.declare "extract_field" (.ofSegments [first]) "A" .classLike []).1.declare "extract_field"
    (.ofSegments [second]) "A" .classLike []).1

def loneFile : FileSystem := ⟨.directory [("f", .file .empty)], [], []⟩

theorem tasks_twins (first second : String) : (twins first second).tasks "extract_field" =
    [⟨.classLike, "A", .ofSegments [first], []⟩, ⟨.classLike, "A", .ofSegments [second], []⟩] := by
  simp [twins, Source.tasks, Source.taskOf, Source.metadata, Source.fieldsOf, Source.declarationsWith, Source.declare,
    Source.add, Source.entryAt, Source.empty]

theorem perm_twins (first second : String) :
    ((twins first second).tasks "extract_field").Perm ((twins second first).tasks "extract_field") := by
  rw [tasks_twins, tasks_twins]
  exact List.Perm.swap _ _ []

theorem linkFree_loneFile : loneFile.LinkFree := by
  intro names target isLink
  rw [FileSystem.face?_eq_map, FileSystem.get?, loneFile] at isLink
  cases names with
  | nil => cases isLink
  | cons name others =>
      rw [Node.get?, Node.entry?] at isLink
      by_cases same : "f" = name
      · rw [if_pos same] at isLink
        cases others <;> cases isLink
      · rw [if_neg same] at isLink
        cases isLink

theorem plain_twins {first second : String} (firstPlain : IsPlain first) (secondPlain : IsPlain second) :
    ∀ task ∈ (twins first second).tasks "extract_field", task.kind.isClassLike → task.IsPlain := by
  intro task member _
  rw [tasks_twins] at member
  obtain ⟨name, isName, rfl⟩ : ∃ name, IsPlain name ∧ task = ⟨.classLike, "A", .ofSegments [name], []⟩ := by
    obtain rfl | rfl := List.mem_pair.mp member
    · exact ⟨first, firstPlain, rfl⟩
    · exact ⟨second, secondPlain, rfl⟩
  refine ⟨(by decide : IsPlain "A"), fun segment isSegment => ?_⟩
  rwa [List.mem_singleton.mp (List.mem_filter.mp isSegment).1]

theorem distinct_twins {first second : String} (someNames : first ≠ "" ∧ second ≠ "") (different : first ≠ second) :
    (((twins first second).tasks "extract_field").filter (·.kind.isClassLike)).Pairwise
      fun task other => ¬ task.Namesakes other := by
  simp [tasks_twins, Task.Namesakes, DeclarationKind.isClassLike, Namespace.ofSegments, someNames, different]

/-- Where the output root holds a file with the name of a module, the class of that module fails in either order. -/
theorem run_perm_twins :
    ((Driver.ofSettings ⟨⟨"."⟩, "extract_field", .rust⟩).run (twins "f" "g") (.ofFiles loneFile)).Permuted
      (loneFile.Steady ⟨"."⟩) (fun names => (Workspace.ofFiles loneFile).LogsTo names ∨
        (Workspace.ofFiles loneFile).LogsTo names)
      ((Driver.ofSettings ⟨⟨"."⟩, "extract_field", .rust⟩).run (twins "g" "f") (.ofFiles loneFile)) := by
  have plain := plain_twins (by decide : IsPlain "f") (by decide : IsPlain "g")
  have distinct := distinct_twins (by decide) (by decide : "f" ≠ "g")
  have linkFree : (Workspace.ofFiles loneFile).files.LinkFree := linkFree_loneFile
  let driver : Driver := .ofSettings ⟨⟨"."⟩, "extract_field", .rust⟩
  have same : driver.settings = driver.settings := rfl
  obtain ⟨-, -, permuted⟩ := run_perm same rfl linkFree (perm_twins "f" "g") plain distinct
  exact permuted

/-- The causes are not the same in every order. Where a `..` of the output root leaves a place at which there is nothing,
the first class makes a directory there before it fails, and so the next one fails further on. -/
theorem not_forall_failures_perm :
    ¬ ∀ (driver : Driver) (work : Workspace) (source other : Source), work.files.LinkFree →
      (source.tasks driver.settings.marker).Perm (other.tasks driver.settings.marker) →
      (∀ task ∈ source.tasks driver.settings.marker, task.kind.isClassLike → task.IsPlain) →
      (((source.tasks driver.settings.marker).filter (·.kind.isClassLike)).Pairwise fun task other =>
        ¬ task.Namesakes other) →
      (driver.run source work).report.failures.Perm (driver.run other work).report.failures := by
  intro always
  have permuted := always (.ofSettings ⟨⟨"missing/../f"⟩, "extract_field", .rust⟩) (.ofFiles loneFile) (twins "a" "b")
    (twins "b" "a") linkFree_loneFile (perm_twins "a" "b")
    (plain_twins (by decide : IsPlain "a") (by decide : IsPlain "b")) (distinct_twins (by decide) (by decide : "a" ≠ "b"))
  revert permuted
  decide +kernel

end Driver

end Companion
