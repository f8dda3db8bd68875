import Companion.Proofs.Build.InPlace

/-!
Builds in place that do not converge. A class is lost, if a companion comes to the file in which it stands; and the next build
does not come to its round, if there is a companion that cannot be read, or a path that is too long.
-/

set_option autoImplicit false

namespace Companion

open FileSystem (WithinLimits stepsOf)

namespace Build

variable {build : Build} {options : HostOptions} {work : Workspace} {settings : Settings} {source : Source}

section Loading

variable (elsewhere : work.LogsElsewhere) (accepted : build.settings options = .ok settings)
  (loaded : (Source.ofDirectory work build.sourceDirectory).2 = .ok source)

include elsewhere accepted loaded

/-- Where a build converges, all that the next one scans can be loaded. -/
theorem Converges.faultless (converges : build.Converges options settings source work) :
    ∀ path ∈ Source.rustFiles (build.run options work).1.files build.sourceDirectory,
      Source.fault? (build.run options work).1.files path = none := by
  obtain ⟨again, loadedAgain, -⟩ := converges.found
  obtain ⟨-, -, -, elsewhereAfter, -⟩ := exists_round elsewhere accepted loaded
  exact (Source.faultless_of_ofDirectory elsewhereAfter loadedAgain).2.2

/-- Where a build converges, no path of a directory or of a Rust file is too long for the next one. -/
theorem Converges.withinLimits (converges : build.Converges options settings source work) :
    (∀ path ∈ (build.run options work).1.files.directoriesBelow build.sourceDirectory, WithinLimits path) ∧
      ∀ path ∈ Source.rustFiles (build.run options work).1.files build.sourceDirectory, WithinLimits path := by
  constructor
  · obtain ⟨again, loadedAgain, -⟩ := converges.found
    obtain ⟨-, -, -, elsewhereAfter, -⟩ := exists_round elsewhere accepted loaded
    obtain ⟨-, walked, -⟩ := Source.faultless_of_ofDirectory elsewhereAfter loadedAgain
    exact fun path member => (FileSystem.error_walk_eq_none_iff.mp walked path member).withinLimits
  · intro path scanned
    obtain ⟨_, _, read, -⟩ := Source.fault?_eq_none_iff.mp (converges.faultless elsewhere accepted loaded path scanned)
    exact FileSystem.withinLimits_of_readText read

/-- Where a build in place converges, no class whose companion is scanned has a field that is called by the blank. -/
theorem InPlace.writable_of_converges (inPlace : build.InPlace settings source work.files)
    (converges : build.Converges options settings source work) {declaration : Declaration}
    (isMarked : declaration ∈ source.marked settings.marker) {path : FilePath}
    (scanned : path ∈ Source.rustFiles (build.run options work).1.files build.sourceDirectory)
    (holds : (build.run options work).1.files.readText path =
      .ok ((source.companion declaration).render settings.language)) :
    ∀ field ∈ source.fieldsOf declaration, field.name ≠ "_" := by
  intro field isField isBlank
  obtain ⟨isFound, isClass⟩ := List.mem_filter.mp isMarked
  obtain ⟨_, _, origin⟩ := (Source.loadedBelow_of_ofDirectory inPlace.named loaded).declarationsWith isFound isClass
  obtain ⟨reason, refused⟩ := exists_error_render origin.name (inPlace.oneLine elsewhere loaded isMarked)
    (inPlace.isSpelled loaded isMarked) isField isBlank
  obtain ⟨_, _, readText, read⟩ := Source.fault?_eq_none_iff.mp (converges.faultless elsewhere accepted loaded path scanned)
  obtain rfl := Except.ok.inj (holds.symm.trans readText)
  rw [inPlace.rust] at read
  exact nomatch read.symm.trans refused

end Loading

/-- What carries the marker is lost, if a companion comes to the file in which it stands. -/
theorem InPlace.not_converges (inPlace : build.InPlace settings source work.files) (elsewhere : work.LogsElsewhere)
    (accepted : build.settings options = .ok settings)
    (loaded : (Source.ofDirectory work build.sourceDirectory).2 = .ok source)
    (writable : ∀ declaration ∈ source.marked settings.marker, ∀ field ∈ source.fieldsOf declaration, field.name ≠ "_")
    {declaration : Declaration} (isFound : declaration ∈ source.declarationsWith settings.marker) {path : FilePath}
    (isFile : declaration.file? = some path)
    (holds : HoldsCompanion settings source (source.declarationsWith settings.marker) (build.run options work).1.files path) :
    ¬ build.Converges options settings source work := by
  rintro ⟨⟨again, loadedAgain, recurs⟩, -, -, -⟩
  obtain ⟨twin, isTwin, same, -⟩ : ∃ twin ∈ again.declarationsWith settings.marker, Recurs source again declaration twin := by
    obtain ⟨index, inside, rfl⟩ := List.getElem_of_mem isFound
    have insideAgain : index < (again.declarationsWith settings.marker).length := recurs.length_eq ▸ inside
    exact ⟨_, List.getElem_mem insideAgain, recurs.get inside insideAgain⟩
  obtain ⟨entry, isTwinEntry, rfl⟩ := List.mem_map.mp isTwin
  obtain ⟨isEntry, carries⟩ := List.mem_filter.mp isTwinEntry
  obtain ⟨-, -, -, elsewhereAfter, -⟩ := exists_round elsewhere accepted loaded
  obtain ⟨other, -, id, found, isFoundAgain, rfl⟩ := Source.exists_finding_of_mem_entries elsewhereAfter loadedAgain isEntry
  have sameLocation : found.location = declaration.location := congrArg Declaration.location same
  obtain ⟨place, location⟩ := Source.location_of_mem_findingsIn isFoundAgain
  obtain rfl : other = path := by
    rw [Declaration.file?, ← sameLocation, location] at isFile
    exact Option.some.inj isFile
  have unmarked := inPlace.unmarked elsewhere loaded writable holds
  exact unmarked.annotations found isFoundAgain (by simpa using carries)

def generated (outcome : Except BuildError RoundReport) : List FilePath :=
  match outcome with
  | .ok report | .error (.round ⟨report, _, _⟩) => report.generated
  | _ => []

theorem Judged.generated_eq {report : RoundReport} {outcome : Except BuildError RoundReport} (judged : Judged report outcome) :
    generated outcome = report.generated := by
  cases judged <;> rfl

/-- In a tree without links, what a build generates can be read also by the names that lead to the same place. -/
theorem holdsCompanion_of_generated (elsewhere : work.LogsElsewhere) (accepted : build.settings options = .ok settings)
    (loaded : (Source.ofDirectory work build.sourceDirectory).2 = .ok source) (linkFree : work.files.LinkFree)
    (namesFiles : source.NamesFiles settings (source.declarationsWith settings.marker))
    (apart : source.Apart settings work.files (source.declarationsWith settings.marker)) {path scanned : FilePath}
    (isGenerated : path ∈ generated (build.run options work).2) (admissible : FileSystem.Admissible scanned)
    (noSlash : FileSystem.asksForDirectory scanned.text = false) (someSteps : stepsOf scanned.text ≠ [])
    (entries : ∀ step ∈ stepsOf scanned.text, step ≠ "." ∧ step ≠ ".." ∧ step.utf8ByteSize ≤ FileSystem.longestName)
    (same : work.files.placeOf path = work.files.startOf scanned ++ stepsOf scanned.text) :
    HoldsCompanion settings source (source.declarationsWith settings.marker) (build.run options work).1.files scanned := by
  obtain ⟨start, startElsewhere, startFiles, -, files, judged⟩ := exists_round elsewhere accepted loaded
  have changes := (Driver.ofSettings settings).run_changes namesFiles (startFiles ▸ linkFree)
  rw [judged.generated_eq, (Driver.run_accountsFor _ source start).generated, List.mem_filterMap] at isGenerated
  obtain ⟨earlier, attempt, later, made, written, isLast⟩ := exists_last isGenerated
  have holds := (Driver.ofSettings settings).run_holds_of_apart namesFiles (startFiles ▸ apart) (startFiles ▸ linkFree) made
    written isLast (startElsewhere _)
  obtain ⟨isFound, isClass⟩ := declaration_of_mem_attempts (made ▸ List.mem_append_cons_self)
  have working : (build.run options work).1.files.working = work.files.working := by rw [files, changes.working, startFiles]
  have isFile : (build.run options work).1.files.face? ((build.run options work).1.files.startOf scanned ++ stepsOf scanned.text) =
      some (.file (source.contentOf settings attempt.declaration)) := by
    have face := holds.face
    have start : (build.run options work).1.files.startOf scanned = work.files.startOf scanned :=
      FileSystem.startOf_congr working rfl
    rwa [FileSystem.placeOf_congr changes.working, startFiles, ← files, same, ← start] at face
  exact ⟨attempt.declaration, isFound, isClass,
    FileSystem.readText_of_readOctets (FileSystem.readOctets_of_names admissible noSlash someSteps entries isFile)⟩

/-- Whether a build of sources in place comes to its round and does not converge. -/
def Diverges (build : Build) (work : Workspace) : Prop :=
  ∃ settings source, build.settings [] = .ok settings ∧ (Source.ofDirectory work build.sourceDirectory).2 = .ok source ∧
    build.InPlace settings source work.files ∧ ¬ build.Converges [] settings source work

/-- Sources with a directory `app`, and in it a class where a companion would stand. -/
def detour : List (String × Node) :=
  [("app", .directory [("ExtractFieldUser.rs", .file "#[extract_field]struct Other;".toUTF8)]),
    ("lib.rs", .file "#[extract_field]struct User;".toUTF8)]

theorem diverges_detour : (into "src/missing/../app").Diverges (sources detour) := by
  obtain ⟨source, loaded, known⟩ : ∃ source, (Source.ofDirectory (sources detour) ⟨"src"⟩).2 = .ok source ∧
      (∀ found ∈ source.marked "extract_field", found.IsNamed ∧ (source.fieldsOf found).length = 0) ∧
      ∃ found ∈ source.marked "extract_field", found.file? = some ⟨"src/app/ExtractFieldUser.rs"⟩ :=
    exists_loaded (by decide +kernel)
  have output : (⟨"src/missing/../app/ExtractFieldUser.rs"⟩ : FilePath) ∈
      generated ((into "src/missing/../app").run [] (sources detour)).2 := by
    decide +kernel
  obtain ⟨areKnown, lost, isLost, isFile⟩ := known
  have noFields : ∀ found ∈ source.marked "extract_field", source.fieldsOf found = [] := fun found member =>
    List.length_eq_zero_iff.mp (areKnown found member).2
  have areNamed : ∀ found ∈ source.declarationsWith "extract_field", found.kind.isClassLike → found.IsNamed :=
    fun found member isClass => (areKnown found (List.mem_filter.mpr ⟨member, isClass⟩)).1
  have elsewhere : (sources detour).LogsElsewhere := Workspace.logsElsewhere_ofFiles _
  have accepted := settings_into (by decide : "src/missing/../app" ≠ "")
  have inPlace : (into "src/missing/../app").InPlace ⟨⟨"src/missing/../app"⟩, "extract_field", .rust⟩ source
      (sources detour).files := by
    have before : "app" < "lib.rs" := by decide +kernel
    have names : IsName "app" ∧ IsName "ExtractFieldUser.rs" ∧ IsName "lib.rs" := by decide
    refine inPlace_sources ?_ ?_ (by decide +kernel) rfl fun found member => by simp [noFields found member]
    · simpa [detour, Node.AreSorted, Node.IsSorted] using before
    · simpa [detour, Node.AreNamed, Node.IsNamed] using names
  have linkFree : (sources detour).files.LinkFree := by
    refine linkFree_sources (List.forall_mem_cons.mpr ⟨Node.linkFree_directory ?_, ?_⟩)
    · exact List.forall_mem_singleton.mpr (Node.linkFree_file _)
    · exact List.forall_mem_singleton.mpr (Node.linkFree_file _)
  have holds := holdsCompanion_of_generated elsewhere accepted loaded linkFree (source.namesFiles_of_areNamed _ areNamed)
    (source.apart_of_areNamed _ _ areNamed) output (⟨by decide, by decide, by decide⟩ : FileSystem.Admissible ⟨"src/app/ExtractFieldUser.rs"⟩)
    (by decide) (by decide) (by decide) (by decide)
  refine ⟨_, source, accepted, loaded, inPlace, ?_⟩
  exact inPlace.not_converges elsewhere accepted loaded (fun found member => by simp [noFields found member])
    (List.mem_filter.mp isLost).1 isFile holds

/-- Sources with a class in a file whose name leads out of the output root, and an enumeration that carries the marker where
the companion comes to stand. -/
def climb : List (String × Node) :=
  [("...rs", .file "#[extract_field]struct User;".toUTF8),
    ("ExtractFieldUser.rs", .file "#[extract_field]enum Other\x7b\x7d".toUTF8)]

theorem diverges_climb : (into "src/gen").Diverges (sources climb) := by
  obtain ⟨source, loaded, known⟩ : ∃ source, (Source.ofDirectory (sources climb) ⟨"src"⟩).2 = .ok source ∧
      (∀ found ∈ source.marked "extract_field", found.name = "User" ∧ (source.fieldsOf found).length = 0 ∧
        source.pathOf ⟨⟨"src/gen"⟩, "extract_field", .rust⟩ found = ⟨"src/gen/../ExtractFieldUser.rs"⟩) ∧
      ∃ found ∈ source.declarationsWith "extract_field", found.file? = some ⟨"src/ExtractFieldUser.rs"⟩ :=
    exists_loaded (by decide +kernel)
  have output : (⟨"src/gen/../ExtractFieldUser.rs"⟩ : FilePath) ∈
      generated ((into "src/gen").run [] (sources climb)).2 := by
    decide +kernel
  obtain ⟨areKnown, lost, isLost, isFile⟩ := known
  have noFields : ∀ found ∈ source.marked "extract_field", source.fieldsOf found = [] := fun found member =>
    List.length_eq_zero_iff.mp (areKnown found member).2.1
  have elsewhere : (sources climb).LogsElsewhere := Workspace.logsElsewhere_ofFiles _
  have accepted := settings_into (by decide : "src/gen" ≠ "")
  have inPlace : (into "src/gen").InPlace ⟨⟨"src/gen"⟩, "extract_field", .rust⟩ source (sources climb).files := by
    have before : "...rs" < "ExtractFieldUser.rs" := by decide +kernel
    have names : IsName "...rs" ∧ IsName "ExtractFieldUser.rs" := by decide
    refine inPlace_sources ?_ ?_ (by decide +kernel) rfl fun found member => by simp [noFields found member]
    · simpa [climb, Node.AreSorted, Node.IsSorted] using before
    · simpa [climb, Node.AreNamed, Node.IsNamed] using names
  have linkFree : (sources climb).files.LinkFree :=
    linkFree_sources (List.forall_mem_cons.mpr ⟨Node.linkFree_file _, List.forall_mem_singleton.mpr (Node.linkFree_file _)⟩)
  have namesFiles : source.NamesFiles ⟨⟨"src/gen"⟩, "extract_field", .rust⟩ (source.declarationsWith "extract_field") := by
    intro found member isClass
    have name : found.name = "User" := (areKnown found (List.mem_filter.mpr ⟨member, isClass⟩)).1
    exact isName_fileName (by rw [name]; decide) (by rw [name]; decide)
  have apart : source.Apart ⟨⟨"src/gen"⟩, "extract_field", .rust⟩ (sources climb).files
      (source.declarationsWith "extract_field") := by
    intro found member isClass other isOther otherClass _
    rw [(areKnown found (List.mem_filter.mpr ⟨member, isClass⟩)).2.2,
      (areKnown other (List.mem_filter.mpr ⟨isOther, otherClass⟩)).2.2]
  have holds := holdsCompanion_of_generated elsewhere accepted loaded linkFree namesFiles apart output
    (⟨by decide, by decide, by decide⟩ : FileSystem.Admissible ⟨"src/ExtractFieldUser.rs"⟩) (by decide) (by decide)
    (by decide) (by decide)
  refine ⟨_, source, accepted, loaded, inPlace, ?_⟩
  exact inPlace.not_converges elsewhere accepted loaded (fun found member => by simp [noFields found member]) isLost isFile holds

/-- Sources with a class that has a field called by the blank. -/
def blank : List (String × Node) :=
  [("lib.rs", .file "#[extract_field]struct User\x7b_:u8\x7d".toUTF8)]

theorem diverges_blank : (into "src/gen").Diverges (sources blank) := by
  obtain ⟨source, loaded, known⟩ : ∃ source, (Source.ofDirectory (sources blank) ⟨"src"⟩).2 = .ok source ∧
      ∀ found ∈ source.marked "extract_field", found.IsNamed ∧
        (∀ field ∈ source.fieldsOf found, field.type.VerbatimFree) ∧ ∃ field ∈ source.fieldsOf found, field.name = "_" :=
    exists_loaded (by decide +kernel)
  have output : ⟨"src/gen/ExtractFieldUser.rs"⟩ ∈ generated ((into "src/gen").run [] (sources blank)).2 ∧
      ⟨"src/gen/ExtractFieldUser.rs"⟩ ∈ Source.rustFiles ((into "src/gen").run [] (sources blank)).1.files ⟨"src"⟩ := by
    decide +kernel
  have elsewhere : (sources blank).LogsElsewhere := Workspace.logsElsewhere_ofFiles _
  have accepted := settings_into (by decide : "src/gen" ≠ "")
  have inPlace : (into "src/gen").InPlace ⟨⟨"src/gen"⟩, "extract_field", .rust⟩ source (sources blank).files := by
    have isName : IsName "lib.rs" := by decide
    refine inPlace_sources ?_ ?_ (by decide +kernel) rfl fun found member => (known found member).2.1
    · simp [blank, Node.AreSorted, Node.IsSorted]
    · simpa [blank, Node.AreNamed, Node.IsNamed] using isName
  have linkFree : (sources blank).files.LinkFree :=
    linkFree_sources (List.forall_mem_singleton.mpr (Node.linkFree_file _))
  have areNamed : ∀ found ∈ source.declarationsWith "extract_field", found.kind.isClassLike → found.IsNamed :=
    fun found member isClass => (known found (List.mem_filter.mpr ⟨member, isClass⟩)).1
  obtain ⟨found, isFound, isClass, read⟩ := holdsCompanion_of_generated elsewhere accepted loaded linkFree
    (source.namesFiles_of_areNamed _ areNamed) (source.apart_of_areNamed _ _ areNamed) output.1
    (⟨by decide, by decide, by decide⟩ : FileSystem.Admissible ⟨"src/gen/ExtractFieldUser.rs"⟩) (by decide) (by decide)
    (by decide) (by decide)
  have isMarked : found ∈ source.marked "extract_field" := List.mem_filter.mpr ⟨isFound, isClass⟩
  obtain ⟨field, isField, isBlank⟩ := (known found isMarked).2.2
  refine ⟨_, source, accepted, loaded, inPlace, fun converges => ?_⟩
  exact inPlace.writable_of_converges elsewhere accepted loaded converges isMarked output.2 read field isField isBlank

/-- Builds in place diverge by a detour of the output root, by a file whose name leads out of it, and by a blank. -/
theorem diverges_in_place : (into "src/missing/../app").Diverges (sources detour) ∧ (into "src/gen").Diverges (sources climb) ∧
    (into "src/gen").Diverges (sources blank) :=
  ⟨diverges_detour, diverges_climb, diverges_blank⟩

end Build

end Companion
