import Companion.Proofs.Build.Stages
import Companion.Proofs.FileSystem.Insertion
import Companion.Proofs.Round.Confinement
import Companion.Proofs.Round.Sites
import Companion.Proofs.Source.Companions

/-!
Builds that write their companions among their sources. The next build reads these too: it finds what the first one found,
comes to the same, and changes nothing. So it goes if the output root is vacant at first, if the companions can be read, and if
their paths are not too long for that.
-/

set_option autoImplicit false

namespace Companion

open FileSystem (WithinLimits stepsOf)

theorem Declaration.LoadedFrom.isForward {root : FilePath} {directories : List String} {stem : String}
    {declaration : Declaration} (loaded : declaration.LoadedFrom root directories stem)
    (ordinary : ∀ file, declaration.file? = some file → file.fileName? ≠ some "...rs") : declaration.IsForward := by
  have notParent : stem ≠ ".." := by
    rintro rfl
    exact ordinary _ loaded.file?_eq (loaded.fileName?_eq loaded.file?_eq)
  obtain ⟨modules, areIdentifiers, segments⟩ := loaded.modules
  refine ⟨loaded.name.isName.slash, fun segment member => ?_⟩
  rw [segments] at member
  obtain inFile | inModules := List.mem_append.mp member
  · obtain inDirectories | inStem := List.mem_append.mp inFile
    · have isName := loaded.areNames_directories segment inDirectories
      exact ⟨isName.slash, isName.ne_parent⟩
    · rw [mem_stemSegment inStem]
      exact ⟨(isStep_stem loaded.isName_rustFile loaded.someStem).slash, notParent⟩
  · have isName := (areIdentifiers segment inModules).isName
    exact ⟨isName.slash, isName.ne_parent⟩

section Rescan

variable {settings : Settings} {source : Source} {declarations : List Declaration} {before after : FileSystem} {root : FilePath}

/-- Whether a path leads to the companion of a class. -/
def HoldsCompanion (settings : Settings) (source : Source) (declarations : List Declaration) (files : FileSystem)
    (path : FilePath) : Prop :=
  ∃ found ∈ declarations, found.kind.isClassLike = true ∧
    files.readText path = .ok ((source.companion found).render settings.language)

/-- What a round has come to stands in one block among the files that were scanned, and these are read as before. If no
directory is too long for it, the next walk comes to its end, too. -/
theorem Came.rescan (came : Came settings source declarations before after) (sorted : before.IsSorted)
    (sortedAfter : after.IsSorted) (isDirectory : before.isDirectory root = true) (walked : (before.walk root).error = none)
    (named : before.NamesBelow root)
    (closed : ∀ place ∈ before.closed, ∃ entries, before.get? place = some (.directory entries))
    (directories : ∀ path ∈ after.directoriesBelow root, WithinLimits path)
    (limits : ∀ path ∈ Source.rustFiles after root, WithinLimits path) :
    after.isDirectory root = true ∧ (after.walk root).error = none ∧
      (∀ path text, before.readText path = .ok text → after.readText path = .ok text) ∧
      ∃ front fresh back, Source.rustFiles before root = front ++ back ∧
        Source.rustFiles after root = front ++ fresh ++ back ∧
        ∀ path ∈ fresh, HoldsCompanion settings source declarations after path := by
  cases came with
  | nothing same =>
      subst same
      exact ⟨isDirectory, walked, fun _ _ read => read, _, [], [], (List.append_nil _).symm, by simp, by simp⟩
  | companions plot sub isBefore isAfter ordinary holds =>
      subst isBefore isAfter
      have extended := plot.extends_grown sub
      obtain ⟨place, leads⟩ := FileSystem.exists_leadsTo isDirectory
      have leadsAfter := leads.mono extended
      obtain ⟨front, block, back, stops, stopsAfter, among⟩ := FileSystem.Plot.stopsBelow_grown leads sorted sortedAfter
      have stands := fun stop member => (among stop member).stands leads named ordinary
      have walkedAfter : ((plot.grown sub).walk root).error = none := by
        refine FileSystem.error_walk_eq_none_iff.mpr fun path member => ?_
        obtain ⟨names, isStop, rfl⟩ := FileSystem.mem_directoryPaths_iff.mp member
        by_cases isNew : (names, .directory) ∈ block
        · obtain ⟨-, areNames, face, isFree⟩ := stands _ isNew
          refine leadsAfter.listable_below areNames (directories _ member) face fun isClosed => ?_
          obtain ⟨entries, there⟩ := closed _ (plot.closed_grown sub ▸ isClosed)
          rw [FileSystem.face?_eq_map, there] at isFree
          contradiction
        · have isOld : (names, .directory) ∈ plot.files.stopsBelow root := by
            rw [stopsAfter] at isStop
            rw [stops]
            simpa [isNew] using isStop
          exact extended.listable (FileSystem.error_walk_eq_none_iff.mp walked _
            (FileSystem.mem_directoryPaths_iff.mpr ⟨names, isOld, rfl⟩))
      have scanned : Source.rustFiles (plot.grown sub) root =
          (FileSystem.filePaths root (front ++ block ++ back)).filter Source.isRustFile := by
        rw [Source.rustFiles, FileSystem.files_walk_of_whole walkedAfter, FileSystem.filesBelow, stopsAfter]
      refine ⟨leadsAfter.isDirectory, walkedAfter, fun path text => extended.readText,
        (FileSystem.filePaths root front).filter Source.isRustFile, (FileSystem.filePaths root block).filter Source.isRustFile,
        (FileSystem.filePaths root back).filter Source.isRustFile, ?_, by simp [scanned], fun path member => ?_⟩
      · rw [Source.rustFiles, FileSystem.files_walk_of_whole walked, FileSystem.filesBelow, stops]
        simp
      · have inScan : path ∈ Source.rustFiles (plot.grown sub) root := by
          rw [scanned]
          simp [List.mem_filter.mp member]
        obtain ⟨names, content, isStop, rfl⟩ := FileSystem.mem_filePaths_iff.mp (List.mem_filter.mp member).1
        obtain ⟨someNames, areNames, face, -⟩ := stands _ isStop
        obtain ⟨middle, inner, -, -, isFile⟩ := (among _ isStop).exists_names
        obtain ⟨found, isFound, isClass, rfl⟩ := holds _ _ isFile
        have read := leadsAfter.readOctets_below someNames areNames (limits _ inScan) face
        exact ⟨found, isFound, isClass, FileSystem.readText_of_readOctets read⟩

end Rescan

namespace Build

variable {build : Build} {options : HostOptions} {work : Workspace} {settings : Settings} {source : Source}

theorem Judged.unique {report : RoundReport} {outcome other : Except BuildError RoundReport} (judged : Judged report outcome)
    (judgedOther : Judged report other) : other = outcome := by
  cases judged with
  | clean rejected failures =>
      cases judgedOther with
      | clean _ _ => rfl
      | unclean some => simp [rejected, failures] at some
  | unclean some =>
      cases judgedOther with
      | clean rejected failures => simp [rejected, failures] at some
      | unclean _ => rfl

theorem exists_round (elsewhere : work.LogsElsewhere) (accepted : build.settings options = .ok settings)
    (loaded : (Source.ofDirectory work build.sourceDirectory).2 = .ok source) :
    ∃ start : Workspace, start.LogsElsewhere ∧ start.files = work.files ∧ (build.run options work).1.LogsElsewhere ∧
      (build.run options work).1.files = ((Driver.ofSettings settings).run source start).work.files ∧
      Judged ((Driver.ofSettings settings).run source start).report (build.run options work).2 := by
  have ran : build.run options work =
      build.generate settings source (Source.ofDirectory work build.sourceDirectory).1 := by
    unfold run
    rw [accepted]
    dsimp only
    rw [← Prod.eta (Source.ofDirectory work build.sourceDirectory), loaded]
  have behind := elsewhere.ofDirectory build.sourceDirectory
  have startElsewhere := build.logsElsewhere_directAll behind (build.dependencies source.files)
  obtain ⟨files, judged⟩ := build.judged_generate settings source (Source.ofDirectory work build.sourceDirectory).1
  refine ⟨_, startElsewhere, ?_, ?_, by rw [ran, files], by rw [ran]; exact judged⟩
  · rw [files_directAll, (Source.ofDirectory_faults elsewhere build.sourceDirectory).1]
  · have round := startElsewhere.of_logsTo ((Driver.ofSettings settings).logsTo_run source _)
    rw [ran]
    exact build.logsElsewhere_directAll round _

/-- What is asked of a build in place. Its companions are Rust files, its marker is none that these carry, and no directory
stands at its output root; the names of its sources are names without line breaks, in order; what may not be listed are
directories that are there; and the types of the fields of its classes are understood. -/
structure InPlace (build : Build) (settings : Settings) (source : Source) (files : FileSystem) : Prop where
  rust : settings.language = .rust
  marker : settings.marker ∉ companionMarks
  sorted : files.IsSorted
  named : files.NamesBelow build.sourceDirectory
  closed : ∀ place ∈ files.closed, ∃ entries, files.get? place = some (.directory entries)
  lines : files.LinesBelow build.sourceDirectory
  absent : ∀ entries, files.standing? settings.outputRoot (stepsOf settings.outputRoot.text) ≠ some (.directory entries)
  understood : ∀ declaration ∈ source.marked settings.marker, ∀ field ∈ source.fieldsOf declaration, field.type.VerbatimFree

/-- A build in place whose output root has no `..` behind what is not there, and whose companions can be read afterwards: no
class stands in a file whose name leads to another directory, no field is called by the blank, and no path of a directory or a
Rust file is too long. -/
structure SafelyInPlace (build : Build) (options : HostOptions) (settings : Settings) (source : Source) (work : Workspace) : Prop
    extends build.InPlace settings source work.files where
  settled : ∀ front rest, stepsOf settings.outputRoot.text = front ++ ".." :: rest →
    work.files.standing? settings.outputRoot front ≠ none
  ordinary : ∀ declaration ∈ source.marked settings.marker, ∀ file, declaration.file? = some file →
    file.fileName? ≠ some "...rs"
  writable : ∀ declaration ∈ source.marked settings.marker, ∀ field ∈ source.fieldsOf declaration, field.name ≠ "_"
  directories : ∀ path ∈ (build.run options work).1.files.directoriesBelow build.sourceDirectory, WithinLimits path
  limits : ∀ path ∈ Source.rustFiles (build.run options work).1.files build.sourceDirectory, WithinLimits path

/-- Whether a build, when it has come to its round, has come to an end. A second one finds the declarations with the marker that
the first one found, in their order and with their fields; it ends as the first one did, and leaves all files as they are. -/
structure Converges (build : Build) (options : HostOptions) (settings : Settings) (source : Source) (work : Workspace) : Prop where
  found : ∃ again, (Source.ofDirectory (build.run options work).1 build.sourceDirectory).2 = .ok again ∧
    List.Forall₂ (Recurs source again) (source.declarationsWith settings.marker) (again.declarationsWith settings.marker)
  judged : ∃ report, Judged report (build.run options work).2
  outcome : (build.run options (build.run options work).1).2 = (build.run options work).2
  files : ∀ names, (build.run options (build.run options work).1).1.files.face? names =
    (build.run options work).1.files.face? names

/-- The modules of a class with the marker have names without line breaks. -/
theorem InPlace.oneLine (inPlace : build.InPlace settings source work.files) (elsewhere : work.LogsElsewhere)
    (loaded : (Source.ofDirectory work build.sourceDirectory).2 = .ok source) {declaration : Declaration}
    (isMarked : declaration ∈ source.marked settings.marker) :
    ∀ segment ∈ declaration.space.segments, Text.IsOneLine segment := by
  obtain ⟨isFound, isClass⟩ := List.mem_filter.mp isMarked
  obtain ⟨entry, isEntry, rfl⟩ := List.mem_map.mp isFound
  exact Source.isOneLine_of_mem_segments elsewhere inPlace.named inPlace.lines loaded (List.mem_filter.mp isEntry).1
    (by simpa [DeclarationKind.isClassLike] using isClass)

theorem InPlace.isSpelled (inPlace : build.InPlace settings source work.files)
    (loaded : (Source.ofDirectory work build.sourceDirectory).2 = .ok source) {declaration : Declaration}
    (isMarked : declaration ∈ source.marked settings.marker) : ∀ field ∈ source.fieldsOf declaration, field.IsSpelled := by
  intro field isField
  obtain ⟨member, position, worded, stands⟩ := Source.exists_member_of_mem_fieldsOf loaded isField
  exact Field.isSpelled_of_member worded stands (inPlace.understood declaration isMarked field isField)

/-- What holds a companion can be loaded, and nothing in it carries the marker. -/
theorem InPlace.unmarked (inPlace : build.InPlace settings source work.files) (elsewhere : work.LogsElsewhere)
    (loaded : (Source.ofDirectory work build.sourceDirectory).2 = .ok source)
    (writable : ∀ declaration ∈ source.marked settings.marker, ∀ field ∈ source.fieldsOf declaration, field.name ≠ "_")
    {after : FileSystem} {path : FilePath}
    (holds : HoldsCompanion settings source (source.declarationsWith settings.marker) after path) :
    Source.Unmarked after build.sourceDirectory settings.marker path := by
  obtain ⟨declaration, isFound, isClass, readText⟩ := holds
  have isMarked : declaration ∈ source.marked settings.marker := List.mem_filter.mpr ⟨isFound, isClass⟩
  obtain ⟨_, _, origin⟩ := (Source.loadedBelow_of_ofDirectory inPlace.named loaded).declarationsWith isFound isClass
  obtain ⟨items, read, marks⟩ := exists_items_render origin.name (inPlace.oneLine elsewhere loaded isMarked)
    fun field isField => (inPlace.isSpelled loaded isMarked field isField).writable (writable declaration isMarked field isField)
  rw [inPlace.rust] at readText
  refine ⟨Source.fault?_eq_none_iff.mpr ⟨_, items, readText, read⟩, fun one member carried => ?_⟩
  rw [Source.findingsIn_of_read readText read] at member
  exact inPlace.marker (marks _ _ one member _ carried)

/-- The round over the sources comes to companions at one free name, if to anything, and comes to the same again. -/
theorem SafelyInPlace.round (inPlace : build.SafelyInPlace options settings source work) (elsewhere : work.LogsElsewhere)
    (loaded : (Source.ofDirectory work build.sourceDirectory).2 = .ok source)
    (accepted : build.settings options = .ok settings) {start : Workspace} (startElsewhere : start.LogsElsewhere)
    (files : start.files = work.files) :
    let round := (Driver.ofSettings settings).run source start
    Came settings source (source.declarationsWith settings.marker) work.files round.work.files ∧
      round.work.files.IsSorted ∧ ∀ again : Workspace, again.LogsElsewhere → again.files = round.work.files →
        ((Driver.ofSettings settings).run source again).report = round.report ∧
          ∀ names, ((Driver.ofSettings settings).run source again).work.files.face? names = again.files.face? names := by
  have loadedBelow := Source.loadedBelow_of_ofDirectory inPlace.named loaded
  obtain ⟨isDirectory, -⟩ := Source.faultless_of_ofDirectory elsewhere loaded
  obtain ⟨place, leads⟩ := FileSystem.exists_leadsTo isDirectory
  obtain ⟨entries, isPlace⟩ := leads.get?
  obtain ⟨-, -, root, -, nonempty, rfl⟩ := settings_eq_ok_iff.mp accepted
  have vacant : work.files.Vacant root := ⟨inPlace.absent, inPlace.settled⟩
  have site : start.files.Site root := by
    rw [files]
    exact vacant.site (FileSystem.root_of_directory (by rw [FileSystem.face?_eq_map, isPlace]; rfl)) nonempty
  rw [← files]
  refine (Driver.ofSettings _).run_at_site site (fun declaration member isClass => ?_) (fun declaration member isClass => ?_)
    startElsewhere (by rw [files]; exact inPlace.sorted)
  · obtain ⟨_, _, origin⟩ := loadedBelow.declarationsWith member isClass
    exact origin.isName_fileName
  · obtain ⟨_, _, origin⟩ := loadedBelow.declarationsWith member isClass
    exact origin.isForward (inPlace.ordinary declaration (List.mem_filter.mpr ⟨member, isClass⟩))

def sources (entries : List (String × Node)) : Workspace :=
  .ofFiles ⟨.directory [("src", .directory entries)], [], []⟩

def into (root : String) : Build := ⟨⟨"src"⟩, some ⟨root⟩, none, none, false⟩

section Sources

variable {entries : List (String × Node)} {root : String}

theorem nodeAt?_sources (entries : List (String × Node)) :
    (sources entries).files.nodeAt? ⟨"src"⟩ = some (.directory entries) := rfl

theorem settings_into (nonempty : root ≠ "") : (into root).settings [] = .ok ⟨⟨root⟩, "extract_field", .rust⟩ :=
  settings_eq_ok_iff.mpr ⟨rfl, (by decide : Naming.isIdentifier "extract_field" = true), ⟨root⟩, rfl, nonempty, rfl⟩

theorem inPlace_sources (sorted : Node.AreSorted entries) (named : Node.AreNamed entries)
    (lines : ∀ stop ∈ Node.stopsOf entries, ∀ name ∈ stop.1, Text.IsOneLine name)
    (absent : (sources entries).files.standing? ⟨root⟩ (stepsOf root) = none)
    (understood : ∀ declaration ∈ source.marked "extract_field", ∀ field ∈ source.fieldsOf declaration,
      field.type.VerbatimFree) :
    (into root).InPlace ⟨⟨root⟩, "extract_field", .rust⟩ source (sources entries).files where
  rust := rfl
  marker := (by decide : "extract_field" ∉ companionMarks)
  sorted := ⟨by simpa [sources, Workspace.ofFiles, Node.IsSorted, Node.AreSorted] using sorted⟩
  named := by
    intro node found
    obtain rfl := Option.some.inj ((nodeAt?_sources entries).symm.trans found)
    simpa [Node.IsNamed] using named
  closed := by simp [sources, Workspace.ofFiles]
  lines := by
    intro node found file member
    obtain rfl := Option.some.inj ((nodeAt?_sources entries).symm.trans found)
    exact lines _ (by simpa [Node.stops] using Node.mem_files_iff.mp member)
  absent := by
    intro others
    dsimp only
    rw [absent]
    simp
  understood := understood

theorem linkFree_sources (free : ∀ entry ∈ entries, entry.2.LinkFree) : (sources entries).files.LinkFree :=
  Node.linkFree_directory (List.forall_mem_singleton.mpr (Node.linkFree_directory free))

theorem exists_loaded {holds : Source → Prop} [DecidablePred holds] {work : Workspace} {directory : FilePath}
    (checked : (Source.ofDirectory work directory).2.toOption.map (fun source => decide (holds source)) = some true) :
    ∃ source, (Source.ofDirectory work directory).2 = .ok source ∧ holds source := by
  obtain ⟨source, loaded, held⟩ := Option.map_eq_some_iff.mp checked
  exact ⟨source, Syntax.ok_of_toOption loaded, of_decide_eq_true held⟩

end Sources

/-- A build in place converges, if it is safe and comes to its round. -/
theorem run_in_place (elsewhere : work.LogsElsewhere) (accepted : build.settings options = .ok settings)
    (loaded : (Source.ofDirectory work build.sourceDirectory).2 = .ok source)
    (inPlace : build.SafelyInPlace options settings source work) : build.Converges options settings source work := by
  obtain ⟨isDirectory, walked, -⟩ := Source.faultless_of_ofDirectory elsewhere loaded
  obtain ⟨start, startElsewhere, startFiles, firstElsewhere, firstFiles, judged⟩ := exists_round elsewhere accepted loaded
  obtain ⟨came, sortedAfter, repeats⟩ := inPlace.round elsewhere loaded accepted startElsewhere startFiles
  rw [← firstFiles] at came sortedAfter repeats
  obtain ⟨isDirectoryAfter, walkedAfter, kept, front, fresh, back, scanned, scannedAfter, holds⟩ :=
    came.rescan inPlace.sorted sortedAfter isDirectory walked inPlace.named inPlace.closed inPlace.directories inPlace.limits
  obtain ⟨again, loadedAgain, recurs⟩ := Source.ofDirectory_again elsewhere loaded firstElsewhere isDirectoryAfter
    walkedAfter scanned scannedAfter (fun path _ => kept path) fun path member =>
      inPlace.unmarked elsewhere loaded inPlace.writable (holds path member)
  obtain ⟨startAgain, againElsewhere, againFiles, -, secondFiles, judgedAgain⟩ :=
    exists_round firstElsewhere accepted loadedAgain
  -- The sources differ in the numbers of their declarations, of which a round knows nothing.
  have twins : List.Forall₂ (Twins source again) (source.declarationsWith settings.marker)
      (again.declarationsWith settings.marker) := recurs.imp fun _ _ => Recurs.twins
  obtain ⟨sameReport, sameWork, -⟩ := Driver.run_of_twins (.idle, .idle) startAgain twins
  obtain ⟨report, unchanged⟩ := repeats startAgain againElsewhere againFiles
  refine ⟨⟨again, loadedAgain, recurs⟩, ⟨_, judged⟩, ?_, fun names => ?_⟩
  · have same : ((Driver.ofSettings settings).run again startAgain).report =
        ((Driver.ofSettings settings).run source start).report := sameReport.trans report
    rw [same] at judgedAgain
    exact judged.unique judgedAgain
  · have same : ((Driver.ofSettings settings).run again startAgain).work =
        ((Driver.ofSettings settings).run source startAgain).work := sameWork
    rw [secondFiles, same, unchanged names, againFiles]

def lone : List (String × Node) :=
  [("lib.rs", .file "#[extract_field]struct User\x7bage:u8\x7d".toUTF8)]

/-- The companion of a class that is written among the sources is found by the next build, which changes nothing. -/
theorem run_in_place_lone :
    ∃ source, (Source.ofDirectory (sources lone) ⟨"src"⟩).2 = .ok source ∧
      (into "src/gen").SafelyInPlace [] ⟨⟨"src/gen"⟩, "extract_field", .rust⟩ source (sources lone) ∧
      ⟨"src/gen/ExtractFieldUser.rs"⟩ ∈ Source.rustFiles ((into "src/gen").run [] (sources lone)).1.files ⟨"src"⟩ ∧
      (into "src/gen").Converges [] ⟨⟨"src/gen"⟩, "extract_field", .rust⟩ source (sources lone) := by
  obtain ⟨source, loaded, known⟩ : ∃ source, (Source.ofDirectory (sources lone) ⟨"src"⟩).2 = .ok source ∧
      ∀ found ∈ source.marked "extract_field", found.file? = some ⟨"src/lib.rs"⟩ ∧
        ∀ field ∈ source.fieldsOf found, field.name = "age" ∧ field.type.VerbatimFree :=
    exists_loaded (by decide +kernel)
  have scanned : Source.rustFiles ((into "src/gen").run [] (sources lone)).1.files ⟨"src"⟩ =
      [⟨"src/gen/ExtractFieldUser.rs"⟩, ⟨"src/lib.rs"⟩] := by
    decide +kernel
  have walked : ((into "src/gen").run [] (sources lone)).1.files.directoriesBelow ⟨"src"⟩ = [⟨"src"⟩, ⟨"src/gen"⟩] := by
    decide +kernel
  have inPlace : (into "src/gen").InPlace ⟨⟨"src/gen"⟩, "extract_field", .rust⟩ source (sources lone).files := by
    have isName : IsName "lib.rs" := by decide
    refine inPlace_sources ?_ ?_ (by decide +kernel) rfl fun found member field isField => ((known found member).2 field isField).2
    · simp [lone, Node.AreSorted, Node.IsSorted]
    · simpa [lone, Node.AreNamed, Node.IsNamed] using isName
  have safely : (into "src/gen").SafelyInPlace [] ⟨⟨"src/gen"⟩, "extract_field", .rust⟩ source (sources lone) :=
    { inPlace with
      settled := fun front rest same => by
        have steps : stepsOf "src/gen" = ["src", "gen"] := by decide
        have parent : ".." ∈ stepsOf "src/gen" := same ▸ List.mem_append_cons_self
        simp [steps] at parent
      ordinary := fun found member file isFile => by
        obtain rfl := Option.some.inj ((known found member).1.symm.trans isFile)
        decide
      writable := fun found member field isField => by
        rw [((known found member).2 field isField).1]
        decide
      directories := fun path member => by
        rw [show (into "src/gen").sourceDirectory = ⟨"src"⟩ from rfl, walked] at member
        rcases List.mem_pair.mp member with rfl | rfl <;> exact ⟨by decide, by decide⟩
      limits := fun path member => by
        rw [show (into "src/gen").sourceDirectory = ⟨"src"⟩ from rfl, scanned] at member
        rcases List.mem_pair.mp member with rfl | rfl <;> exact ⟨by decide, by decide⟩ }
  refine ⟨source, loaded, safely, by simp [scanned], ?_⟩
  exact run_in_place (Workspace.logsElsewhere_ofFiles _) (settings_into (by decide)) loaded safely

end Build

end Companion
