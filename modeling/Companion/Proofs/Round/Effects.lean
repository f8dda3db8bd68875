import Companion.Proofs.Emission
import Companion.Proofs.Round.Accounting

/-!
What a round does to the files. Each attempt changes its own file, or none if it fails, and makes directories that lead
to that file; a file that several attempts write holds what the last of them wrote. Events that are logged change no
file but the log.
-/

set_option autoImplicit false

namespace Companion

open FileSystem (Changes Nowhere)

def Workspace.LogsTo (work : Workspace) (names : List String) : Prop :=
  work.logger.target = .file names

theorem Workspace.log_changes (work : Workspace) (event : Log.Event) :
    Changes Nowhere work.LogsTo work.files (work.log event).files := by
  unfold log
  split
  · dsimp only
    split
    · exact .refl _
    · exact .refl _
    · rename_i names target
      exact (FileSystem.changes_append work.files names _).mono (fun _ never => never) fun _ same => same ▸ target
  · exact .refl _

@[simp] theorem Workspace.logsTo_log (work : Workspace) (event : Log.Event) :
    (work.log event).LogsTo = work.LogsTo := by
  funext names
  simp [LogsTo]

namespace Source

def pathOf (source : Source) (settings : Settings) (declaration : Declaration) : FilePath :=
  (source.companion declaration).outputPath settings.outputRoot settings.language.extension

def directoryOf (source : Source) (settings : Settings) (declaration : Declaration) : FilePath :=
  (source.companion declaration).space.under settings.outputRoot

def contentOf (source : Source) (settings : Settings) (declaration : Declaration) : ByteArray :=
  ((source.companion declaration).render settings.language).toUTF8

end Source

variable {settings : Settings} {source : Source}

theorem Attempt.exists_ok_of_written? {attempt : Attempt} {path : FilePath}
    (written : attempt.written? settings source = some path) : ∃ path, (attempt.result settings source).2 = .ok path := by
  unfold Attempt.written? at written
  cases outcome : (attempt.result settings source).2 with
  | error error => simp [outcome] at written
  | ok done => exact ⟨done, rfl⟩

theorem Attempt.written?_of_ok {attempt : Attempt} {path : FilePath}
    (outcome : (attempt.result settings source).2 = .ok path) :
    attempt.written? settings source = some (source.pathOf settings attempt.declaration) := by
  have same : path = source.pathOf settings attempt.declaration := CompanionType.emit_path outcome
  unfold Attempt.written?
  simp only [outcome, same]

/-- A character that is not in the name of a class, nor in what is put around it, is not in the name of the file of its
companion. -/
theorem notMem_fileName {declaration : Declaration} {c : Char} (around : c ∉ "ExtractField.rskt".toList)
    (inName : c ∉ declaration.name.toList) :
    c ∉ ((source.companion declaration).fileName settings.language.extension).toList := by
  have name : (source.companion declaration).name = "ExtractField" ++ declaration.name := rfl
  have chars : ((source.companion declaration).fileName settings.language.extension).toList =
      "ExtractField".toList ++ declaration.name.toList ++ ".".toList ++ settings.language.extension.toList := by
    simp [CompanionType.fileName, name]
  have given : ∀ text ∈ ["ExtractField", ".", "rs", "kt"], c ∉ text.toList := by
    intro text member inside
    have within : ["ExtractField", ".", "rs", "kt"].all fun text => text.toList.all ("ExtractField.rskt".toList.contains ·) :=
      by decide
    have known := List.all_eq_true.mp (List.all_eq_true.mp within text member) c inside
    exact around (List.contains_iff_mem.mp known)
  have extension : c ∉ settings.language.extension.toList := by
    cases settings.language with
    | rust => exact given "rs" (by decide)
    | kotlin => exact given "kt" (by decide)
  simp only [chars, List.mem_append, not_or]
  exact ⟨⟨⟨given _ (by decide), inName⟩, given _ (by decide)⟩, extension⟩

theorem isEntry_fileName {declaration : Declaration} (slash : '/' ∉ declaration.name.toList) :
    IsEntry ((source.companion declaration).fileName settings.language.extension) := by
  have name : (source.companion declaration).name = "ExtractField" ++ declaration.name := rfl
  have long : ∀ short : String, short.toList.length < 12 →
      (source.companion declaration).fileName settings.language.extension ≠ short := fun short isShort same => by
    have lengths := congrArg (fun text => text.toList.length) same
    have front : "ExtractField".toList.length = 12 := rfl
    simp only [CompanionType.fileName, name, String.toList_append, List.length_append] at lengths
    omega
  exact ⟨⟨long _ (by decide), notMem_fileName (by decide) slash⟩, long _ (by decide), long _ (by decide)⟩

theorem isName_fileName {declaration : Declaration} (slash : '/' ∉ declaration.name.toList)
    (null : '\x00' ∉ declaration.name.toList) :
    IsName ((source.companion declaration).fileName settings.language.extension) :=
  have isEntry := isEntry_fileName slash
  ⟨isEntry.ne_empty, isEntry.ne_current, isEntry.ne_parent, isEntry.slash, notMem_fileName (by decide) null⟩

/-- Whether an attempt has written a file at a place. -/
def Attempt.Wrote (settings : Settings) (source : Source) (files : FileSystem) (attempt : Attempt)
    (names : List String) : Prop :=
  ∃ path, attempt.written? settings source = some path ∧ names = files.placeOf path

theorem Attempt.wrote_congr {before after : FileSystem} (working : after.working = before.working)
    {attempt : Attempt} : attempt.Wrote settings source after = attempt.Wrote settings source before := by
  funext names
  simp only [Wrote, FileSystem.placeOf_congr working]

/-- Where a class is named as a file can be, its attempt changes no file but that of its companion, and none if it
fails; it makes no directories but those that lead to that file. -/
theorem Attempt.result_changes (attempt : Attempt) (settings : Settings)
    (isEntry : IsEntry ((source.companion attempt.declaration).fileName settings.language.extension))
    (linkFree : attempt.files.LinkFree) :
    Changes (attempt.files.Passed (source.directoryOf settings attempt.declaration))
        (attempt.Wrote settings source attempt.files) attempt.files (attempt.result settings source).1 ∧
      ∀ path, attempt.written? settings source = some path →
        (attempt.result settings source).1.Holds path (source.contentOf settings attempt.declaration) := by
  obtain ⟨changes, holds⟩ := CompanionType.emit_changes settings.outputRoot isEntry linkFree
  constructor
  · refine changes.mono (fun _ passed => passed) ?_
    rintro names ⟨⟨path, outcome⟩, place⟩
    exact ⟨_, Attempt.written?_of_ok outcome, place⟩
  · intro path written
    rw [Attempt.written?_eq written]
    exact holds (Attempt.exists_ok_of_written? written)

section Step

variable {work : Workspace} {declaration : Declaration}

theorem Source.tried_files : (source.tried settings work declaration).files =
    ((source.attemptOf work declaration).result settings source).1 := by
  rw [tried]

@[simp] theorem Source.logsTo_tried : (source.tried settings work declaration).LogsTo = work.LogsTo := by
  funext names
  simp [tried, announce, Workspace.LogsTo]

@[simp] theorem Source.logsTo_attempted :
    (source.attempted settings work declaration).LogsTo = work.LogsTo := by
  rw [attempted, Workspace.logsTo_log, logsTo_tried]

/-- What comes before an attempt is the log of its announcement. -/
theorem Source.attemptOf_changes (source : Source) (work : Workspace) (declaration : Declaration) :
    Changes Nowhere work.LogsTo work.files (source.attemptOf work declaration).files := by
  have first := work.log_changes (source.readEvent declaration)
  have second := (work.log (source.readEvent declaration)).log_changes
    (.typeSynthesized (source.companion declaration).name (source.companion declaration).properties.length
      (source.companion declaration).methodCount)
  rw [Workspace.logsTo_log] at second
  exact first.trans second

/-- What comes behind an attempt is the log of its outcome. -/
theorem Source.attempted_changes_behind (source : Source) (settings : Settings) (work : Workspace)
    (declaration : Declaration) :
    Changes Nowhere work.LogsTo ((source.attemptOf work declaration).result settings source).1
      (source.attempted settings work declaration).files := by
  have logged := (source.tried settings work declaration).log_changes
    ((source.attemptOf work declaration).event settings source)
  rw [logsTo_tried, tried_files] at logged
  rw [attempted]
  exact logged

/-- One declaration: besides the log only the file of its companion is written, and a path to it leads to what was
written unless the log is kept there. -/
theorem Source.attempted_changes (source : Source) (settings : Settings)
    (isEntry : IsEntry ((source.companion declaration).fileName settings.language.extension))
    (linkFree : work.files.LinkFree) :
    Changes (work.files.Passed (source.directoryOf settings declaration))
        (fun names => work.LogsTo names ∨ (source.attemptOf work declaration).Wrote settings source work.files names)
        work.files (source.attempted settings work declaration).files ∧
      ∀ path, (source.attemptOf work declaration).written? settings source = some path →
        ¬ work.LogsTo (work.files.placeOf path) →
        (source.attempted settings work declaration).files.Holds path (source.contentOf settings declaration) := by
  have announced := source.attemptOf_changes work declaration
  obtain ⟨changes, holds⟩ := (source.attemptOf work declaration).result_changes settings isEntry (announced.linkFree linkFree)
  have behind := source.attempted_changes_behind settings work declaration
  constructor
  · refine (announced.orElse.trans (changes.mono ?_ ?_)).trans behind.orElse
    · rw [FileSystem.passed_congr announced.working]
      exact fun _ passed => passed
    · rw [Attempt.wrote_congr announced.working]
      exact fun _ wrote => .inr wrote
  · intro path written noLog
    refine (holds path written).after behind ?_
    rwa [FileSystem.placeOf_congr (changes.working.trans announced.working)]

end Step

/-- The places of the directories that lead to the companions of several attempts. -/
def Prepared (settings : Settings) (source : Source) (files : FileSystem) (made : List Attempt)
    (names : List String) : Prop :=
  ∃ attempt ∈ made, files.Passed (source.directoryOf settings attempt.declaration) names

def Written (settings : Settings) (source : Source) (files : FileSystem) (made : List Attempt)
    (names : List String) : Prop :=
  ∃ attempt ∈ made, attempt.Wrote settings source files names

theorem prepared_congr {before after : FileSystem} (working : after.working = before.working) (made : List Attempt) :
    Prepared settings source after made = Prepared settings source before made := by
  funext names
  simp only [Prepared, FileSystem.passed_congr working]

theorem written_congr {before after : FileSystem} (working : after.working = before.working) (made : List Attempt) :
    Written settings source after made = Written settings source before made := by
  funext names
  simp only [Written, Attempt.wrote_congr working]

/-- A declaration whose companion can be written to a file of its own name, in directories of the names of its
modules. -/
structure Declaration.IsNamed (declaration : Declaration) : Prop where
  segments : ∀ segment ∈ declaration.space.segments, IsName segment
  slash : '/' ∉ declaration.name.toList
  null : '\x00' ∉ declaration.name.toList

instance (declaration : Declaration) : Decidable declaration.IsNamed :=
  decidable_of_iff ((∀ segment ∈ declaration.space.segments, IsName segment) ∧ '/' ∉ declaration.name.toList ∧
    '\x00' ∉ declaration.name.toList)
    ⟨fun ⟨segments, slash, null⟩ => ⟨segments, slash, null⟩, fun ⟨segments, slash, null⟩ => ⟨segments, slash, null⟩⟩

theorem Declaration.IsNamed.fileName {declaration : Declaration} (named : declaration.IsNamed) :
    IsName ((source.companion declaration).fileName settings.language.extension) :=
  isName_fileName named.slash named.null

/-- Whether the companions of the classes among several declarations have names for their files. -/
def Source.NamesFiles (source : Source) (settings : Settings) (declarations : List Declaration) : Prop :=
  ∀ found ∈ declarations, found.kind.isClassLike →
    IsName ((source.companion found).fileName settings.language.extension)

theorem Source.NamesFiles.others {declaration : Declaration} {others : List Declaration}
    (namesFiles : source.NamesFiles settings (declaration :: others)) : source.NamesFiles settings others :=
  fun found member => namesFiles found (List.mem_cons_of_mem _ member)

theorem Source.namesFiles_of_areNamed (source : Source) (settings : Settings) {declarations : List Declaration}
    (areNamed : ∀ found ∈ declarations, found.kind.isClassLike → found.IsNamed) :
    source.NamesFiles settings declarations :=
  fun found member isClass => (areNamed found member isClass).fileName

def Source.namesOf (source : Source) (settings : Settings) (declaration : Declaration) : List String :=
  declaration.space.segments ++ [(source.companion declaration).fileName settings.language.extension]

theorem Declaration.IsNamed.areNames {declaration : Declaration} (named : declaration.IsNamed) :
    ∀ name ∈ source.namesOf settings declaration, IsName name := by
  intro name member
  obtain inSpace | isFile := List.mem_append.mp member
  · exact named.segments name inSpace
  · rw [List.mem_singleton.mp isFile]
    exact named.fileName

theorem Declaration.IsNamed.pathOf_eq {declaration : Declaration} (named : declaration.IsNamed) :
    source.pathOf settings declaration = settings.outputRoot.below (source.namesOf settings declaration) := by
  have isName : IsName ((source.companion declaration).fileName settings.language.extension) := named.fileName
  exact (source.companion declaration).outputPath_eq (areSteps_of_areNames named.segments)
    (FilePath.isAbsolute_of_slashFree isName.slash)

theorem pathOf_eq_of_placeOf {files : FileSystem} {declaration other : Declaration} (named : declaration.IsNamed)
    (otherNamed : other.IsNamed)
    (same : files.placeOf (source.pathOf settings declaration) = files.placeOf (source.pathOf settings other)) :
    source.pathOf settings declaration = source.pathOf settings other := by
  rw [named.pathOf_eq, otherNamed.pathOf_eq] at same ⊢
  rw [FileSystem.placeOf_below _ _ named.areNames, FileSystem.placeOf_below _ _ otherNamed.areNames] at same
  rw [List.append_cancel_left same]

variable {work : Workspace} {declarations : List Declaration}

/-- Whether the companions of the classes among several declarations have one path where they have one place. -/
def Source.Apart (source : Source) (settings : Settings) (files : FileSystem) (declarations : List Declaration) : Prop :=
  ∀ found ∈ declarations, found.kind.isClassLike → ∀ other ∈ declarations, other.kind.isClassLike →
    files.placeOf (source.pathOf settings found) = files.placeOf (source.pathOf settings other) →
      source.pathOf settings found = source.pathOf settings other

theorem Source.apart_of_areNamed (source : Source) (settings : Settings) (files : FileSystem)
    (areNamed : ∀ found ∈ declarations, found.kind.isClassLike → found.IsNamed) :
    source.Apart settings files declarations :=
  fun found member isClass other isOther otherClass =>
    pathOf_eq_of_placeOf (areNamed found member isClass) (areNamed other isOther otherClass)

theorem Source.Apart.others {files after : FileSystem} {declaration : Declaration}
    (apart : source.Apart settings files (declaration :: declarations)) (working : after.working = files.working) :
    source.Apart settings after declarations := by
  intro found member isClass other isOther otherClass same
  rw [FileSystem.placeOf_congr working] at same
  exact apart found (List.mem_cons_of_mem _ member) isClass other (List.mem_cons_of_mem _ isOther) otherClass same

theorem declaration_of_mem_attempts {attempt : Attempt}
    (member : attempt ∈ (attempts settings source work declarations).2) :
    attempt.declaration ∈ declarations ∧ attempt.declaration.kind.isClassLike = true := by
  have isDeclared := List.mem_map_of_mem (f := Attempt.declaration) member
  rw [attempts_declarations] at isDeclared
  simpa using isDeclared

/-- A run over declarations changes no files but those that its attempts wrote, and the log; it makes only directories
that lead to these files. -/
theorem attempts_changes (namesFiles : source.NamesFiles settings declarations)
    (linkFree : work.files.LinkFree) :
    Changes (Prepared settings source work.files (attempts settings source work declarations).2)
      (fun names => work.LogsTo names ∨
        Written settings source work.files (attempts settings source work declarations).2 names)
      work.files (attempts settings source work declarations).1.files := by
  induction declarations generalizing work with
  | nil => exact .refl _
  | cons declaration others ih =>
      cases isClass : declaration.kind.isClassLike with
      | true =>
          have isName := namesFiles declaration (by simp) isClass
          obtain ⟨first, -⟩ := source.attempted_changes settings isName.isEntry linkFree
          have rest := ih namesFiles.others (first.linkFree linkFree)
          rw [prepared_congr first.working, written_congr first.working, Source.logsTo_attempted] at rest
          simp only [attempts, isClass, if_true]
          refine (first.mono ?_ ?_).trans (rest.mono ?_ ?_)
          · exact fun names passed => ⟨_, List.mem_cons_self, passed⟩
          · exact fun names => Or.imp_right fun wrote => ⟨_, List.mem_cons_self, wrote⟩
          · rintro names ⟨attempt, member, passed⟩
            exact ⟨attempt, List.mem_cons_of_mem _ member, passed⟩
          · refine fun names => Or.imp_right ?_
            rintro ⟨attempt, member, wrote⟩
            exact ⟨attempt, List.mem_cons_of_mem _ member, wrote⟩
      | false =>
          have logged := work.log_changes declaration.rejection
          have rest := ih namesFiles.others (logged.linkFree linkFree)
          rw [prepared_congr logged.working, written_congr logged.working, Workspace.logsTo_log] at rest
          simp only [attempts, isClass, Bool.false_eq_true, if_false]
          exact logged.orElse.trans rest

@[simp] theorem logsTo_attempts (work : Workspace) (declarations : List Declaration) :
    (attempts settings source work declarations).1.LogsTo = work.LogsTo := by
  induction declarations generalizing work with
  | nil => rfl
  | cons declaration others ih => cases isClass : declaration.kind.isClassLike <;> simp [attempts, isClass, ih]

theorem linkFree_of_mem_attempts (namesFiles : source.NamesFiles settings declarations)
    (linkFree : work.files.LinkFree) {attempt : Attempt}
    (member : attempt ∈ (attempts settings source work declarations).2) : attempt.files.LinkFree := by
  induction declarations generalizing work with
  | nil => simp [attempts] at member
  | cons declaration others ih =>
      cases isClass : declaration.kind.isClassLike with
      | true =>
          have isName := namesFiles declaration (by simp) isClass
          obtain ⟨first, -⟩ := source.attempted_changes settings isName.isEntry linkFree
          simp only [attempts, isClass, if_true, List.mem_cons] at member
          obtain rfl | member := member
          · exact (source.attemptOf_changes work declaration).linkFree linkFree
          · exact ih namesFiles.others (first.linkFree linkFree) member
      | false =>
          simp only [attempts, isClass, Bool.false_eq_true, if_false] at member
          exact ih namesFiles.others ((work.log_changes declaration.rejection).linkFree linkFree) member

/-- A path leads to what the last attempt for it wrote, unless the log is kept there. The attempts behind it write
elsewhere, where companions at one place have one path. -/
theorem attempts_hold (namesFiles : source.NamesFiles settings declarations)
    (apart : source.Apart settings work.files declarations)
    (linkFree : work.files.LinkFree) {earlier later : List Attempt} {attempt : Attempt} {path : FilePath}
    (made : (attempts settings source work declarations).2 = earlier ++ attempt :: later)
    (written : attempt.written? settings source = some path)
    (last : ∀ other ∈ later, other.written? settings source ≠ some path)
    (noLog : ¬ work.LogsTo (work.files.placeOf path)) :
    (attempts settings source work declarations).1.files.Holds path
      (source.contentOf settings attempt.declaration) := by
  induction declarations generalizing work earlier with
  | nil => simp [attempts] at made
  | cons declaration others ih =>
      cases isClass : declaration.kind.isClassLike with
      | true =>
          have isName := namesFiles declaration (by simp) isClass
          obtain ⟨first, holds⟩ := source.attempted_changes settings isName.isEntry linkFree
          have place := congrFun (FileSystem.placeOf_congr first.working) path
          simp only [attempts, isClass, if_true] at made ⊢
          cases earlier with
          | nil =>
              obtain ⟨rfl, rfl⟩ := List.cons.inj made
              have rest := attempts_changes namesFiles.others (first.linkFree linkFree)
              refine (holds path written noLog).after rest ?_
              rw [place, Source.logsTo_attempted]
              rintro (logs | ⟨other, member, path', otherWritten, same⟩)
              · exact noLog logs
              · obtain ⟨isOther, otherClass⟩ := declaration_of_mem_attempts member
                refine last other member ?_
                rw [otherWritten]
                rw [FileSystem.placeOf_congr first.working, Attempt.written?_eq otherWritten,
                  Attempt.written?_eq written] at same
                rw [Attempt.written?_eq otherWritten, Attempt.written?_eq written]
                exact congrArg some (apart declaration List.mem_cons_self isClass other.declaration
                  (List.mem_cons_of_mem _ isOther) otherClass same).symm
          | cons before earlier =>
              refine ih namesFiles.others (apart.others first.working) (first.linkFree linkFree) (List.cons.inj made).2 ?_
              rwa [place, Source.logsTo_attempted]
      | false =>
          have logged := work.log_changes declaration.rejection
          simp only [attempts, isClass, Bool.false_eq_true, if_false] at made ⊢
          refine ih namesFiles.others (apart.others logged.working) (logged.linkFree linkFree) made ?_
          rwa [FileSystem.placeOf_congr logged.working, Workspace.logsTo_log]

theorem Source.begun_changes (source : Source) (settings : Settings) (work : Workspace) :
    Changes Nowhere work.LogsTo work.files (source.begun settings work).files :=
  work.log_changes _

@[simp] theorem Source.logsTo_begun (source : Source) (settings : Settings) (work : Workspace) :
    (source.begun settings work).LogsTo = work.LogsTo :=
  work.logsTo_log _

/-- What a round leaves behind in a tree without links: each path that it generated leads to a regular file that holds
the companion of the last attempt for that path; every other regular file is there as it was before, and an attempt that
failed left them all alone; new directories lead to companions. The log alone may change besides. -/
structure Round.Leaves (settings : Settings) (source : Source) (work : Workspace) (round : Round) : Prop where
  generated : ∀ path ∈ round.report.generated, ¬ work.LogsTo (work.files.placeOf path) →
    ∃ earlier attempt later, source.attempts settings work = earlier ++ attempt :: later ∧
      attempt.written? settings source = some path ∧
      (∀ other ∈ later, other.written? settings source ≠ some path) ∧
      round.work.files.Holds path (source.contentOf settings attempt.declaration) ∧
      round.work.files.readOctets path = .ok (source.contentOf settings attempt.declaration)
  files : ∀ names, ¬ work.LogsTo names → (∀ path ∈ round.report.generated, names ≠ work.files.placeOf path) →
    ∀ content, round.work.files.face? names = some (.file content) ↔ work.files.face? names = some (.file content)
  failed : ∀ attempt ∈ source.attempts settings work, attempt.written? settings source = none →
    ∀ names content, (attempt.result settings source).1.face? names = some (.file content) ↔
      attempt.files.face? names = some (.file content)
  directories : ∀ names, round.work.files.face? names = some .directory →
    work.files.face? names = some .directory ∨ ∃ declaration ∈ source.marked settings.marker,
      work.files.Passed (source.directoryOf settings declaration) names
  kept : ∀ names, work.files.face? names = some .directory → round.work.files.face? names = some .directory
  linkFree : round.work.files.LinkFree

theorem exists_last {α : Type} {holds : α → Prop} {list : List α} (some : ∃ member ∈ list, holds member) :
    ∃ earlier last later, list = earlier ++ last :: later ∧ holds last ∧ ∀ other ∈ later, ¬ holds other := by
  induction list with
  | nil =>
      obtain ⟨_, never, _⟩ := some
      contradiction
  | cons first rest ih =>
      by_cases more : ∃ member ∈ rest, holds member
      · obtain ⟨earlier, last, later, split, held, none⟩ := ih more
        exact ⟨first :: earlier, last, later, by rw [split]; rfl, held, none⟩
      · obtain ⟨member, isMember, held⟩ := some
        obtain rfl | isMember := List.mem_cons.mp isMember
        · exact ⟨[], member, rest, rfl, held, fun other isOther holds => more ⟨other, isOther, holds⟩⟩
        · exact absurd ⟨member, isMember, held⟩ more

namespace Driver

/-- A round changes no files but those that its attempts wrote, and the log; it makes only directories that lead to these
files. -/
theorem run_changes (driver : Driver) {source : Source} {work : Workspace}
    (namesFiles : source.NamesFiles driver.settings (source.declarationsWith driver.settings.marker))
    (linkFree : work.files.LinkFree) :
    Changes (Prepared driver.settings source work.files (source.attempts driver.settings work))
      (fun names => work.LogsTo names ∨
        Written driver.settings source work.files (source.attempts driver.settings work) names)
      work.files (driver.run source work).work.files := by
  by_cases nothing : source.declarationsWith driver.settings.marker = []
  · rw [run_of_nothing nothing]
    exact (work.log_changes _).orElse
  obtain ⟨event, ran⟩ := run_of_some driver work nothing
  rw [ran]
  -- The loop runs between the event at the start of the round and the one at its end.
  have first := source.begun_changes driver.settings work
  have loop := attempts_changes namesFiles (first.linkFree linkFree)
  have last := (attempts driver.settings source (source.begun driver.settings work)
    (source.declarationsWith driver.settings.marker)).1.log_changes event
  rw [logsTo_attempts, Source.logsTo_begun] at last
  rw [prepared_congr first.working, written_congr first.working, Source.logsTo_begun] at loop
  exact (first.orElse.trans loop).trans last.orElse

/-- Where a round does not log, a path that it generated leads to what the last attempt for that path wrote, if companions
at one place have one path. -/
theorem run_holds_of_apart (driver : Driver) {source : Source} {work : Workspace}
    (namesFiles : source.NamesFiles driver.settings (source.declarationsWith driver.settings.marker))
    (apart : source.Apart driver.settings work.files (source.declarationsWith driver.settings.marker))
    (linkFree : work.files.LinkFree) {earlier later : List Attempt} {attempt : Attempt} {path : FilePath}
    (made : source.attempts driver.settings work = earlier ++ attempt :: later)
    (written : attempt.written? driver.settings source = some path)
    (isLast : ∀ other ∈ later, other.written? driver.settings source ≠ some path)
    (noLog : ¬ work.LogsTo (work.files.placeOf path)) :
    (driver.run source work).work.files.Holds path (source.contentOf driver.settings attempt.declaration) := by
  have something : source.declarationsWith driver.settings.marker ≠ [] := fun nothing => by
    simp [Source.attempts, nothing, attempts] at made
  obtain ⟨event, ran⟩ := run_of_some driver work something
  rw [ran]
  have first := source.begun_changes driver.settings work
  have begunApart : source.Apart driver.settings (source.begun driver.settings work).files
      (source.declarationsWith driver.settings.marker) := by
    rwa [Source.Apart, FileSystem.placeOf_congr first.working]
  have loop := attempts_changes namesFiles (first.linkFree linkFree)
  have last := (attempts driver.settings source (source.begun driver.settings work)
    (source.declarationsWith driver.settings.marker)).1.log_changes event
  rw [logsTo_attempts, Source.logsTo_begun] at last
  refine (attempts_hold namesFiles begunApart (first.linkFree linkFree) made written isLast ?_).after last ?_
  · rwa [Source.logsTo_begun, congrFun (FileSystem.placeOf_congr first.working) path]
  · rwa [FileSystem.placeOf_congr (loop.working.trans first.working)]

/-- Where a round does not log, a path that it generated leads to what the last attempt for that path wrote. -/
theorem run_holds (driver : Driver) {source : Source} {work : Workspace}
    (classesNamed : ∀ found ∈ source.declarationsWith driver.settings.marker, found.kind.isClassLike → found.IsNamed)
    (linkFree : work.files.LinkFree) {earlier later : List Attempt} {attempt : Attempt} {path : FilePath}
    (made : source.attempts driver.settings work = earlier ++ attempt :: later)
    (written : attempt.written? driver.settings source = some path)
    (isLast : ∀ other ∈ later, other.written? driver.settings source ≠ some path)
    (noLog : ¬ work.LogsTo (work.files.placeOf path)) :
    (driver.run source work).work.files.Holds path (source.contentOf driver.settings attempt.declaration) :=
  driver.run_holds_of_apart (source.namesFiles_of_areNamed driver.settings classesNamed)
    (source.apart_of_areNamed driver.settings work.files classesNamed) linkFree made written isLast noLog

/-- Where classes are named as files and directories can be, every round writes the companions that it reports, the last
one at each path, and leaves all other files as they were. -/
theorem run_leaves (driver : Driver) (source : Source) (work : Workspace)
    (areNamed : ∀ found ∈ source.marked driver.settings.marker, found.IsNamed) (linkFree : work.files.LinkFree) :
    (driver.run source work).Leaves driver.settings source work := by
  have classesNamed : ∀ found ∈ source.declarationsWith driver.settings.marker, found.kind.isClassLike →
      found.IsNamed := fun found member isClass => areNamed found (List.mem_filter.mpr ⟨member, isClass⟩)
  have namesFiles : source.NamesFiles driver.settings (source.declarationsWith driver.settings.marker) :=
    source.namesFiles_of_areNamed driver.settings classesNamed
  have generated := (run_accountsFor driver source work).generated
  have through := driver.run_changes namesFiles linkFree
  refine ⟨?_, fun names noLog elsewhere content => through.file_iff ?_ content, ?_, fun names isDirectory => ?_,
    fun names => through.directory, through.linkFree linkFree⟩
  · intro path isGenerated noLog
    rw [generated, List.mem_filterMap] at isGenerated
    obtain ⟨earlier, attempt, later, made, written, isLast⟩ := exists_last isGenerated
    have holds := driver.run_holds classesNamed linkFree made written isLast noLog
    refine ⟨earlier, attempt, later, made, written, isLast, holds, holds.readOctets (through.linkFree linkFree) ?_⟩
    obtain ⟨isFound, isClass⟩ := declaration_of_mem_attempts (made ▸ List.mem_append_cons_self)
    rw [Attempt.written?_eq written]
    exact CompanionType.asksForDirectory_outputPath (namesFiles _ isFound isClass).isEntry
  · rintro (logs | ⟨attempt, member, path, written, place⟩)
    · exact noLog logs
    · refine elsewhere path ?_ place
      rw [generated, List.mem_filterMap]
      exact ⟨attempt, member, written⟩
  · intro attempt member failed names content
    obtain ⟨isFound, isClass⟩ := declaration_of_mem_attempts member
    have attemptLinkFree := linkFree_of_mem_attempts namesFiles
      ((source.begun_changes driver.settings work).linkFree linkFree) member
    obtain ⟨changes, -⟩ := attempt.result_changes driver.settings (namesFiles _ isFound isClass).isEntry attemptLinkFree
    refine changes.file_iff ?_ content
    rintro ⟨path, written, -⟩
    simp [failed] at written
  · obtain wasDirectory | ⟨_, attempt, member, passed⟩ := through.new_directory isDirectory
    · exact .inl wasDirectory
    · obtain ⟨isFound, isClass⟩ := declaration_of_mem_attempts member
      exact .inr ⟨_, List.mem_filter.mpr ⟨isFound, isClass⟩, passed⟩

def intoOut : Settings := ⟨⟨"out"⟩, "record", .rust⟩

/-- Four classes and an enumeration. The first class and the last have the same name and different fields. -/
def crowd : Source :=
  [("app", "User", .classLike, [⟨"age", .scalar .u8, []⟩]), ("app", "Choice", .enumeration, []), ("taken", "Other", .classLike, []),
    ("app", "Held", .classLike, []), ("app", "User", .classLike, [⟨"name", .string, ["The name."]⟩])].foldl
    (fun source (space, name, kind, fields) => (source.declare "record" (.ofDotted space) name kind fields).1) .empty

/-- A tree in which a file stands where two of the companions go, a directory where another one goes, and a file where a
directory would be made. -/
def cluttered : FileSystem :=
  ⟨.directory [("out", .directory [("app", .directory [("ExtractFieldHeld.rs", .emptyDirectory),
    ("ExtractFieldUser.rs", .file "old".toUTF8), ("kept.txt", .file "kept".toUTF8)]), ("taken", .file "taken".toUTF8)])], [], []⟩

/-- Of two companions at one path the last one is left, in the place of what was there; a declaration that is rejected and
companions that fail, for the directory or for the file, leave all as it was. -/
theorem run_leaves_crowd :
    let round := (Driver.ofSettings intoOut).run crowd (.ofFiles cluttered)
    round.Leaves intoOut crowd (.ofFiles cluttered) ∧
      round.report = ⟨true, [⟨"out/app/ExtractFieldUser.rs"⟩, ⟨"out/app/ExtractFieldUser.rs"⟩], ["app.Choice"],
        [⟨"taken.Other", .createDirectory ⟨"out/taken"⟩ .alreadyExists⟩,
          ⟨"app.Held", .write ⟨"out/app/ExtractFieldHeld.rs"⟩ .isDirectory⟩]⟩ ∧
      (∃ attempt ∈ crowd.attempts intoOut (.ofFiles cluttered), attempt.declaration.id = 4 ∧
        round.work.files.readOctets ⟨"out/app/ExtractFieldUser.rs"⟩ = .ok (crowd.contentOf intoOut attempt.declaration)) ∧
      (round.work.files.readText ⟨"out/app/kept.txt"⟩).toOption = some "kept" := by
  intro round
  have areNamed : ∀ found ∈ crowd.marked "record", found.IsNamed := by decide +kernel
  have linkFree : cluttered.LinkFree := by
    refine Node.linkFree_directory (List.forall_mem_singleton.mpr (Node.linkFree_directory ?_))
    refine List.forall_mem_cons.mpr ⟨Node.linkFree_directory ?_, List.forall_mem_singleton.mpr (Node.linkFree_file _)⟩
    refine List.forall_mem_cons.mpr ⟨Node.linkFree_directory (by simp), ?_⟩
    exact List.forall_mem_cons.mpr ⟨Node.linkFree_file _, List.forall_mem_singleton.mpr (Node.linkFree_file _)⟩
  have leaves : round.Leaves intoOut crowd (.ofFiles cluttered) :=
    run_leaves (.ofSettings intoOut) crowd (.ofFiles cluttered) areNamed linkFree
  have report : round.report = ⟨true, [⟨"out/app/ExtractFieldUser.rs"⟩, ⟨"out/app/ExtractFieldUser.rs"⟩], ["app.Choice"],
      [⟨"taken.Other", .createDirectory ⟨"out/taken"⟩ .alreadyExists⟩,
        ⟨"app.Held", .write ⟨"out/app/ExtractFieldHeld.rs"⟩ .isDirectory⟩]⟩ := by
    decide +kernel
  have atEnd : (crowd.attempts intoOut (.ofFiles cluttered)).getLast?.map
      (fun attempt => (attempt.declaration.id, attempt.written? intoOut crowd)) =
        some (4, some ⟨"out/app/ExtractFieldUser.rs"⟩) := by
    decide +kernel
  refine ⟨leaves, report, ?_, by decide +kernel⟩
  obtain ⟨earlier, attempt, later, split, written, isLast, -, read⟩ := leaves.generated ⟨"out/app/ExtractFieldUser.rs"⟩
    (by simp [report]) fun logs => by simp [Workspace.LogsTo, Workspace.ofFiles, Logger.silent] at logs
  refine ⟨attempt, split ▸ List.mem_append_cons_self, ?_, read⟩
  -- The attempt at the end has written to the path, so it is the last one that has.
  rw [split] at atEnd
  obtain rfl | ⟨front, final, rfl⟩ := List.eq_nil_or_concat later
  · rw [List.getLast?_concat, Option.map_some, Option.some.injEq, Prod.mk.injEq] at atEnd
    exact atEnd.1
  · rw [List.concat_eq_append, ← List.cons_append, ← List.append_assoc, List.getLast?_concat, Option.map_some, Option.some.injEq,
      Prod.mk.injEq] at atEnd
    exact absurd atEnd.2 (isLast final (by simp))

end Driver

end Companion
