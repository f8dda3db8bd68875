import Companion.Proofs.Emission.Site
import Companion.Proofs.FileSystem.Naming
import Companion.Proofs.Round.Repetition
import Companion.Proofs.Source.Faults

/-!
Rounds whose output root is still to be made, with the log outside the tree. Such a round changes nothing, or all that it
makes is at one name that was free; and a round that follows makes nothing new.
-/

set_option autoImplicit false

namespace Companion

open FileSystem (Approach Later Plot Site)

variable {settings : Settings} {source : Source} {work again : Workspace} {declaration : Declaration}
  {declarations : List Declaration}

theorem Source.attemptOf_elsewhere (elsewhere : work.LogsElsewhere) (source : Source) (declaration : Declaration) :
    source.attemptOf work declaration = ⟨declaration, work.files⟩ := by
  unfold attemptOf announce
  dsimp only
  rw [(elsewhere.log _).files_log, elsewhere.files_log]

theorem Source.attempted_elsewhere (elsewhere : work.LogsElsewhere) (settings : Settings) (source : Source)
    (declaration : Declaration) : (source.attempted settings work declaration).LogsElsewhere ∧
      (source.attempted settings work declaration).files =
        ((source.companion declaration).emit settings.language settings.outputRoot work.files).1 := by
  have tried : (source.tried settings work declaration).LogsElsewhere := fun names => by
    rw [logsTo_tried]
    exact elsewhere names
  refine ⟨fun names => by rw [logsTo_attempted]; exact elsewhere names, ?_⟩
  rw [attempted, tried.files_log, tried_files, attemptOf_elsewhere elsewhere, Attempt.result]

/-- Attempts at the same class that come to the same. -/
theorem Attempt.Repeats.of_same {first again : Attempt} (declaration : again.declaration = first.declaration)
    (same : (again.result settings source).2 = (first.result settings source).2) :
    Attempt.Repeats settings source True first again :=
  ⟨declaration, by rw [same], fun _ => same⟩

/-- Where no companion changes the tree, attempts come to the same each time. -/
theorem attempts_of_stays (elsewhere : work.LogsElsewhere) (elsewhereAgain : again.LogsElsewhere)
    (same : again.files = work.files)
    (stays : ∀ found ∈ declarations, found.kind.isClassLike →
      ((source.companion found).emit settings.language settings.outputRoot work.files).1 = work.files) :
    (attempts settings source work declarations).1.files = work.files ∧
      List.Forall₂ (Attempt.Repeats settings source True) (attempts settings source work declarations).2
        (attempts settings source again declarations).2 := by
  induction declarations generalizing work again with
  | nil => exact ⟨rfl, .nil⟩
  | cons declaration others ih =>
      obtain ⟨first, othersStay⟩ := List.forall_mem_cons.mp stays
      unfold attempts
      cases isClass : declaration.kind.isClassLike with
      | true =>
          simp only [if_true]
          obtain ⟨next, files⟩ := source.attempted_elsewhere elsewhere settings declaration
          obtain ⟨nextAgain, filesAgain⟩ := source.attempted_elsewhere elsewhereAgain settings declaration
          rw [first isClass] at files
          rw [same, first isClass] at filesAgain
          obtain ⟨unchanged, repeats⟩ := ih next nextAgain (by rw [files, filesAgain]) (by rwa [files])
          refine ⟨unchanged.trans files, .cons (.of_same rfl ?_) repeats⟩
          rw [Source.attemptOf_elsewhere elsewhere, Source.attemptOf_elsewhere elsewhereAgain, same]
      | false =>
          simp only [Bool.false_eq_true, if_false]
          have files := elsewhere.files_log declaration.rejection
          have filesAgain := elsewhereAgain.files_log declaration.rejection
          obtain ⟨unchanged, repeats⟩ := ih (elsewhere.log declaration.rejection) (elsewhereAgain.log declaration.rejection)
            (by rw [files, filesAgain, same]) (by rwa [files])
          exact ⟨unchanged.trans files, repeats⟩

theorem exists_of_lastStored? {files : FileSystem} {names : List String} {made : List Attempt} {content : ByteArray}
    (stored : lastStored? settings source files names made = some content) :
    ∃ attempt ∈ made, attempt.stored? settings source files names = some content := by
  induction made with
  | nil => contradiction
  | cons attempt others ih =>
      obtain later | ⟨-, here⟩ := Option.or_eq_some_iff.mp stored
      · obtain ⟨other, member, inOthers⟩ := ih later
        exact ⟨other, List.mem_cons_of_mem _ member, inOthers⟩
      · exact ⟨attempt, List.mem_cons_self, here⟩

theorem lastStored?_ne_none {files : FileSystem} {names : List String} {made : List Attempt} {attempt : Attempt}
    (member : attempt ∈ made) (wrote : attempt.Wrote settings source files names) :
    lastStored? settings source files names made ≠ none := by
  induction made with
  | nil => contradiction
  | cons first others ih =>
      intro nothing
      obtain ⟨noLater, notHere⟩ := Option.or_eq_none_iff.mp nothing
      obtain rfl | inOthers := List.mem_cons.mp member
      · exact Attempt.not_wrote_of_stored? notHere wrote
      · exact ih inOthers noLater

theorem exists_attempt_of_file (namesFiles : source.NamesFiles settings declarations)
    (forward : ∀ found ∈ declarations, found.kind.isClassLike → found.IsForward) (linkFree : work.files.LinkFree)
    (elsewhere : work.LogsElsewhere) {names : List String} {content : ByteArray}
    (isFile : (attempts settings source work declarations).1.files.face? names = some (.file content))
    (isNew : work.files.face? names ≠ some (.file content)) :
    ∃ attempt ∈ (attempts settings source work declarations).2, content = source.contentOf settings attempt.declaration := by
  have stored : ∀ left, lastStored? settings source work.files names (attempts settings source work declarations).2 =
      some left → _ := (face?_attempts forward linkFree (elsewhere names)).1
  obtain same | ⟨-, isDirectory, -⟩ | ⟨-, -, logs | ⟨attempt, member, wrote⟩⟩ :=
    (attempts_changes namesFiles linkFree).faces names
  · exact absurd (same ▸ isFile) isNew
  · rw [isFile] at isDirectory
    cases isDirectory
  · exact absurd logs (elsewhere names)
  · obtain ⟨left, last⟩ := Option.ne_none_iff_exists'.mp (lastStored?_ne_none member wrote)
    have here := stored left last
    rw [isFile] at here
    cases here
    obtain ⟨writer, isWriter, byWriter⟩ := exists_of_lastStored? last
    obtain ⟨_, -, -, whole⟩ := Attempt.exists_of_stored? byWriter
    exact ⟨writer, isWriter, whole⟩

section Kept

variable {kept : FileSystem → Prop}
  (makes : ∀ {files made : FileSystem} {path : FilePath}, kept files → files.makeDirectory path = .ok made → kept made)
  (writes : ∀ {files made : FileSystem} {path : FilePath}, kept files → ∀ {text : String}, files.write path text = .ok made →
    kept made)
include makes writes

/-- What is kept when a directory is made and when a file is written is kept by a companion, whatever comes of it. -/
theorem emit_keeps (type : CompanionType) (language : Language) (root : FilePath) {files : FileSystem} (start : kept files) :
    kept (type.emit language root files).1 := by
  have ready : kept (prepareDirectory files (type.outputPath root language.extension)).1 := by
    unfold prepareDirectory
    split
    · exact start
    · rename_i directory _
      have made : kept (files.makeDirectories directory).1 := FileSystem.makeDirectoriesWithin_keeps makes _ directory start
      split <;> simpa [*] using made
  rcases prepared : prepareDirectory files (type.outputPath root language.extension) with ⟨middle, reason | done⟩
  · rw [CompanionType.emit_of_unprepared prepared]
    rwa [prepared] at ready
  · rw [prepared] at ready
    cases wrote : middle.write (type.outputPath root language.extension) (type.render language) with
    | error cause => rwa [CompanionType.emit_of_unwritten prepared wrote]
    | ok after =>
        rw [CompanionType.emit_of_written prepared wrote]
        exact writes ready wrote

theorem attempts_keeps (elsewhere : work.LogsElsewhere) (start : kept work.files) :
    kept (attempts settings source work declarations).1.files := by
  induction declarations generalizing work with
  | nil => exact start
  | cons declaration others ih =>
      unfold attempts
      split
      · obtain ⟨next, files⟩ := source.attempted_elsewhere elsewhere settings declaration
        refine ih next ?_
        rw [files]
        exact emit_keeps makes writes _ _ _ start
      · have files := elsewhere.files_log declaration.rejection
        exact ih (elsewhere.log declaration.rejection) (by rwa [files])

end Kept

/-- The settings of a round in the tree that has nothing but a free name. -/
def Settings.rootedAt (settings : Settings) (root : FilePath) : Settings :=
  { settings with outputRoot := root }

/-- Whether an attempt comes to what another comes to below another root, path for path. -/
structure Attempt.Mirrors (settings : Settings) (source : Source) (root : FilePath) (whole apart : Attempt) : Prop where
  declaration : whole.declaration = apart.declaration
  result : (whole.result settings source).2 = CompanionType.relocate (source.pathOf settings apart.declaration)
    (apart.result (settings.rootedAt root) source).2

/-- Where attempts below one root come to the same again, so do those that they mirror. -/
theorem repeats_of_mirrors {root : FilePath} {steady : Prop} {first again apart apartAgain : List Attempt}
    (mirrors : List.Forall₂ (Attempt.Mirrors settings source root) first apart)
    (repeats : List.Forall₂ (Attempt.Repeats (settings.rootedAt root) source steady) apart apartAgain) (holds : steady)
    (mirrorsAgain : List.Forall₂ (Attempt.Mirrors settings source root) again apartAgain) :
    List.Forall₂ (Attempt.Repeats settings source True) first again := by
  induction mirrors generalizing again apartAgain with
  | nil =>
      cases repeats
      cases mirrorsAgain
      exact .nil
  | cons one _ ih =>
      cases repeats with
      | cons same others =>
          cases mirrorsAgain with
          | cons other rest =>
              refine .cons (.of_same ?_ ?_) (ih others rest)
              · rw [other.declaration, same.declaration, one.declaration]
              · rw [other.result, one.result, same.causes holds, same.declaration]

section Plot

variable {plot : Plot} {lead slashes base : String} {apart : Workspace} {sub : Option Node}

/-- Attempts come to the same in the whole tree and in the tree that has nothing but the free name. -/
theorem attempts_grown (settings : Settings) (source : Source) (approach : Approach plot lead slashes) (behind : plot.Behind base)
    (root : settings.outputRoot = ⟨lead ++ base⟩)
    (forward : ∀ found ∈ declarations, found.kind.isClassLike → found.IsForward)
    (elsewhere : work.LogsElsewhere) (files : work.files = plot.grown sub)
    (apartElsewhere : apart.LogsElsewhere) (apartFiles : apart.files = plot.apart sub)
    (linkFree : (plot.apart sub).LinkFree) :
    ∃ after, (attempts settings source work declarations).1.files = plot.grown after ∧
      (attempts (settings.rootedAt ⟨slashes ++ base⟩) source apart declarations).1.files = plot.apart after ∧
      List.Forall₂ (Attempt.Mirrors settings source ⟨slashes ++ base⟩) (attempts settings source work declarations).2
        (attempts (settings.rootedAt ⟨slashes ++ base⟩) source apart declarations).2 := by
  induction declarations generalizing work apart sub with
  | nil => exact ⟨sub, files, apartFiles, .nil⟩
  | cons declaration others ih =>
      obtain ⟨first, othersForward⟩ := List.forall_mem_cons.mp forward
      unfold attempts
      cases isClass : declaration.kind.isClassLike with
      | true =>
          simp only [if_true]
          have isForward := first isClass
          obtain ⟨next, nextFiles⟩ := source.attempted_elsewhere elsewhere settings declaration
          obtain ⟨nextApart, nextApartFiles⟩ :=
            source.attempted_elsewhere apartElsewhere (settings.rootedAt ⟨slashes ++ base⟩) declaration
          have nextLinkFree :
              (source.attempted (settings.rootedAt ⟨slashes ++ base⟩) apart declaration).files.LinkFree :=
            linkFree_attempted isForward (by rwa [apartFiles])
          have isEntry : IsEntry ((source.companion declaration).fileName settings.language.extension) :=
            isEntry_fileName isForward.slash
          obtain ⟨after, grown, alone, same⟩ := CompanionType.emit_grown approach behind linkFree isForward.slashFree
            (fun back => (isForward.segments _ back).2 rfl) isEntry
          have afterFiles : (source.attempted settings work declaration).files = plot.grown after := by
            rw [nextFiles, root, files, grown]
          have afterApart : (source.attempted (settings.rootedAt ⟨slashes ++ base⟩) apart declaration).files =
              plot.apart after := by
            rw [nextApartFiles, apartFiles]
            exact alone
          obtain ⟨last, lastGrown, lastApart, relocated⟩ := ih othersForward next afterFiles nextApart afterApart
            (by rwa [← afterApart])
          refine ⟨last, lastGrown, lastApart, .cons ⟨rfl, ?_⟩ relocated⟩
          rw [Source.attemptOf_elsewhere elsewhere, Source.attemptOf_elsewhere apartElsewhere, files, apartFiles]
          unfold Attempt.result Source.pathOf
          rw [root]
          exact same
      | false =>
          simp only [Bool.false_eq_true, if_false]
          exact ih othersForward (elsewhere.log _) ((elsewhere.files_log _).trans files) (apartElsewhere.log _)
            ((apartElsewhere.files_log _).trans apartFiles) linkFree

/-- Whether all files at the free name are companions of classes. -/
def HoldsCompanions (settings : Settings) (source : Source) (declarations : List Declaration) (plot : Plot)
    (sub : Option Node) : Prop :=
  ∀ names content, (plot.apart sub).face? names = some (.file content) →
    ∃ found ∈ declarations, found.kind.isClassLike = true ∧ content = source.contentOf settings found

/-- The files that attempts make at the free name are companions. -/
theorem holdsCompanions_of_attempts {root : FilePath} (namesFiles : source.NamesFiles settings declarations)
    (forward : ∀ found ∈ declarations, found.kind.isClassLike → found.IsForward)
    (elsewhere : apart.LogsElsewhere) (files : apart.files = plot.apart none)
    (made : (attempts (settings.rootedAt root) source apart declarations).1.files = plot.apart sub) :
    HoldsCompanions settings source declarations plot sub := by
  intro names content isFile
  have linkFree : apart.files.LinkFree := files ▸ FileSystem.linkFree_empty
  have isNew : apart.files.face? names ≠ some (.file content) := by
    rw [files]
    cases names <;> simp [Plot.apart, FileSystem.empty, FileSystem.face?, Node.face, Node.emptyDirectory,
      Node.face?_directory_cons, Node.entry?]
  rw [← made] at isFile
  have namesApart : source.NamesFiles (settings.rootedAt root) declarations := namesFiles
  obtain ⟨attempt, member, rfl⟩ := exists_attempt_of_file namesApart forward linkFree elsewhere isFile isNew
  obtain ⟨isDeclaration, isClass⟩ := declaration_of_mem_attempts member
  exact ⟨attempt.declaration, isDeclaration, isClass, rfl⟩

end Plot

/-- What attempts at a vacant root come to: nothing, or directories and companions at one name that was free. -/
inductive Came (settings : Settings) (source : Source) (declarations : List Declaration) (before after : FileSystem) : Prop
  | nothing (same : after = before)
  | companions (plot : Plot) (sub : Option Node) (isBefore : plot.files = before) (isAfter : after = plot.grown sub)
      (ordinary : (plot.apart sub).IsOrdinary) (holds : HoldsCompanions settings source declarations plot sub)

/-- Whether attempts come to companions at one free name, if to anything, and attempts that follow come to the same. -/
structure Settle (settings : Settings) (source : Source) (declarations : List Declaration) (work : Workspace) : Prop where
  came : Came settings source declarations work.files (attempts settings source work declarations).1.files
  again : ∀ again : Workspace, again.LogsElsewhere → again.files = (attempts settings source work declarations).1.files →
    List.Forall₂ (Attempt.Repeats settings source True) (attempts settings source work declarations).2
        (attempts settings source again declarations).2 ∧
      ∀ names, (attempts settings source again declarations).1.files.face? names = again.files.face? names

theorem settle_of_stays (elsewhere : work.LogsElsewhere) (stays : ∀ found ∈ declarations, found.kind.isClassLike →
    ((source.companion found).emit settings.language settings.outputRoot work.files).1 = work.files) :
    Settle settings source declarations work := by
  have same := (attempts_of_stays elsewhere elsewhere rfl stays).1
  refine ⟨.nothing same, fun again elsewhereAgain files => ?_⟩
  rw [same] at files
  refine ⟨(attempts_of_stays elsewhere elsewhereAgain files stays).2, fun names => ?_⟩
  rw [(attempts_of_stays elsewhereAgain elsewhereAgain rfl (by rwa [files])).1]

theorem settle_of_plot {plot : Plot} {lead slashes base : String} (isFiles : plot.files = work.files)
    (approach : Approach plot lead slashes) (behind : plot.Behind base) (root : settings.outputRoot = ⟨lead ++ base⟩)
    (namesFiles : source.NamesFiles settings declarations)
    (forward : ∀ found ∈ declarations, found.kind.isClassLike → found.IsForward) (elsewhere : work.LogsElsewhere) :
    Settle settings source declarations work := by
  have begins := Workspace.logsElsewhere_ofFiles (plot.apart none)
  have isPlot : work.files = plot.grown none := isFiles.symm
  obtain ⟨after, grown, apart, relocated⟩ := attempts_grown settings source approach behind root forward elsewhere isPlot
    begins rfl FileSystem.linkFree_empty
  have ordinary : (plot.apart after).IsOrdinary := by
    rw [← apart]
    exact attempts_keeps FileSystem.IsOrdinary.makeDirectory FileSystem.IsOrdinary.write begins .empty
  have linkFree := ordinary.linkFree
  refine ⟨.companions plot after isFiles grown ordinary
    (holdsCompanions_of_attempts namesFiles forward begins rfl apart), fun again elsewhereAgain files => ?_⟩
  rw [grown] at files
  have goesOn := Workspace.logsElsewhere_ofFiles (plot.apart after)
  obtain ⟨last, grownAgain, apartAgain, relocatedAgain⟩ := attempts_grown settings source approach behind root forward
    elsewhereAgain files goesOn rfl linkFree
  have later : Later (settings.rootedAt ⟨slashes ++ base⟩).outputRoot (attempts (settings.rootedAt ⟨slashes ++ base⟩) source
      (.ofFiles (plot.apart none)) declarations).1.files (Workspace.ofFiles (plot.apart after)).files := by
    rw [apart]
    exact .ofSame rfl fun _ => rfl
  -- No step leads back behind the free name, so the causes of failures are the same, too.
  have steady : (Workspace.ofFiles (plot.apart none)).files.Steady (settings.rootedAt ⟨slashes ++ base⟩).outputRoot := by
    intro front rest split
    obtain ⟨further, steps, noBack⟩ := approach.exists_steps behind
    have whole : FileSystem.stepsOf (slashes ++ base) = plot.name :: further := by
      rw [approach.slashesLead.steps, approach.noSteps, steps, List.nil_append]
    have back : ".." ∈ plot.name :: further := by
      rw [← whole]
      exact split ▸ List.mem_append_right _ List.mem_cons_self
    obtain isName | inFurther := List.mem_cons.mp back
    · exact absurd isName.symm approach.isEntry.ne_parent
    · exact absurd inFurther noBack
  have startLinkFree : (Workspace.ofFiles (plot.apart none)).files.LinkFree := FileSystem.linkFree_empty
  obtain ⟨repeats, -⟩ := attempts_again forward startLinkFree linkFree later
  constructor
  · exact repeats_of_mirrors relocated repeats steady relocatedAgain
  · intro names
    have same : ∀ inner, (plot.apart last).face? inner = (plot.apart after).face? inner := by
      intro inner
      have kept := face?_attempts_again forward startLinkFree linkFree later (begins inner) (goesOn inner)
        (by rw [apart]; rfl)
      rwa [apartAgain] at kept
    rw [grownAgain, files, Plot.face?_grown_congr same]

theorem settle_of_site (site : work.files.Site settings.outputRoot) (namesFiles : source.NamesFiles settings declarations)
    (forward : ∀ found ∈ declarations, found.kind.isClassLike → found.IsForward) (elsewhere : work.LogsElsewhere) :
    Settle settings source declarations work := by
  cases site with
  | null inside =>
      exact settle_of_stays elsewhere fun found member isClass =>
        CompanionType.emit_of_null (forward found member isClass).slashFree
          (isEntry_fileName (forward found member isClass).slash) inside
  | barred front step stops =>
      exact settle_of_stays elsewhere fun found member isClass =>
        CompanionType.emit_of_stops (forward found member isClass).slashFree
          (isEntry_fileName (forward found member isClass).slash) stops
  | plot plot lead base isFiles approach behind root =>
      exact settle_of_plot isFiles approach behind root namesFiles forward elsewhere

theorem Workspace.LogsElsewhere.of_logsTo (elsewhere : work.LogsElsewhere) (same : again.LogsTo = work.LogsTo) :
    again.LogsElsewhere := fun names logs => elsewhere names (same ▸ logs)

namespace Driver

variable {driver : Driver}

/-- A round at a vacant root comes to companions at one free name, if to anything; and a round that follows reports the same
and leaves all as it is. -/
theorem run_at_site (site : work.files.Site driver.settings.outputRoot)
    (namesFiles : source.NamesFiles driver.settings (source.declarationsWith driver.settings.marker))
    (forward : ∀ found ∈ source.declarationsWith driver.settings.marker, found.kind.isClassLike → found.IsForward)
    (elsewhere : work.LogsElsewhere) (sorted : work.files.IsSorted) :
    Came driver.settings source (source.declarationsWith driver.settings.marker) work.files
        (driver.run source work).work.files ∧ (driver.run source work).work.files.IsSorted ∧
      ∀ again : Workspace, again.LogsElsewhere → again.files = (driver.run source work).work.files →
        (driver.run source again).report = (driver.run source work).report ∧
          ∀ names, (driver.run source again).work.files.face? names = again.files.face? names := by
  by_cases nothing : source.declarationsWith driver.settings.marker = []
  · rw [run_of_nothing nothing, elsewhere.files_log]
    refine ⟨.nothing rfl, sorted, fun again elsewhereAgain files => ?_⟩
    rw [run_of_nothing nothing]
    exact ⟨rfl, fun names => by rw [elsewhereAgain.files_log]⟩
  · obtain ⟨event, ran⟩ := run_of_some driver work nothing
    have begunElsewhere : (source.begun driver.settings work).LogsElsewhere := elsewhere.log _
    have begunFiles : (source.begun driver.settings work).files = work.files := elsewhere.files_log _
    have behind : (attempts driver.settings source (source.begun driver.settings work)
        (source.declarationsWith driver.settings.marker)).1.LogsElsewhere :=
      begunElsewhere.of_logsTo (logsTo_attempts _ _)
    obtain ⟨came, settled⟩ : Settle driver.settings source (source.declarationsWith driver.settings.marker)
        (source.begun driver.settings work) :=
      settle_of_site (by rwa [begunFiles]) namesFiles forward begunElsewhere
    have files : (driver.run source work).work.files = (attempts driver.settings source (source.begun driver.settings work)
        (source.declarationsWith driver.settings.marker)).1.files := by
      rw [ran, behind.files_log]
    rw [begunFiles, ← files] at came
    refine ⟨came, ?_, fun again elsewhereAgain same => ?_⟩
    · rw [files]
      exact attempts_keeps FileSystem.IsSorted.makeDirectory FileSystem.IsSorted.write begunElsewhere (by rwa [begunFiles])
    · obtain ⟨eventAgain, ranAgain⟩ := run_of_some driver again nothing
      have begunAgain : (source.begun driver.settings again).LogsElsewhere := elsewhereAgain.log _
      have startAgain : (source.begun driver.settings again).files = again.files := elsewhereAgain.files_log _
      obtain ⟨repeats, kept⟩ := settled (source.begun driver.settings again) begunAgain (by rw [startAgain, same, files])
      have behindAgain : (attempts driver.settings source (source.begun driver.settings again)
          (source.declarationsWith driver.settings.marker)).1.LogsElsewhere :=
        begunAgain.of_logsTo (logsTo_attempts _ _)
      constructor
      · rw [ranAgain, ran]
        exact (Round.reportBehind_again .begun _ repeats).2.2 trivial
      · intro names
        rw [ranAgain, behindAgain.files_log, kept, startAgain]

end Driver

end Companion
