import Companion.Proofs.Source.Editing
import Companion.Proofs.Source.Listing
import Companion.Proofs.Source.Lookup

/-!
Loading a tree is loading its Rust files in turn: each regular file below the directory whose name has the extension, once,
in the order of the names that lead to it. It ends at the first file that cannot be loaded, of which nothing is kept, or at the
first directory that cannot be listed, with the source as the files in front of that have left it.
-/

set_option autoImplicit false

namespace Companion

namespace Source

variable {source middle after : Source} {work later : Workspace} {root : FilePath}

/-- Whether a source has grown by files and by entries that stand in these, and by nothing else. -/
structure Gains (source : Source) (paths : List FilePath) (after : Source) : Prop where
  files : after.files = source.files ++ paths
  entries : ∃ fresh, after.entries = source.entries ++ fresh ∧ ∀ entry ∈ fresh, ∃ path ∈ paths, ∃ place,
    entry.declaration.location = Index.locationIn (some path) place
  diagnostics : after.diagnostics = source.diagnostics

theorem Gains.refl (source : Source) : source.Gains [] source :=
  ⟨(List.append_nil _).symm, ⟨[], (List.append_nil _).symm, by simp⟩, rfl⟩

theorem Gains.trans {paths others : List FilePath} (gains : source.Gains paths middle) (further : middle.Gains others after) :
    source.Gains (paths ++ others) after := by
  obtain ⟨fresh, entries, stand⟩ := gains.entries
  obtain ⟨fresher, grown, standToo⟩ := further.entries
  refine ⟨?_, ⟨fresh ++ fresher, ?_, fun entry member => ?_⟩, further.diagnostics.trans gains.diagnostics⟩
  · rw [further.files, gains.files, List.append_assoc]
  · rw [grown, entries, List.append_assoc]
  · obtain inFresh | inFresher := List.mem_append.mp member
    · obtain ⟨path, isPath, location⟩ := stand entry inFresh
      exact ⟨path, List.mem_append_left _ isPath, location⟩
    · obtain ⟨path, isPath, location⟩ := standToo entry inFresher
      exact ⟨path, List.mem_append_right _ isPath, location⟩

/-- A file that was added stands at the end, and so do its entries. -/
theorem gains_of_addFile {files : FileSystem} {path : FilePath} {space : Namespace} {events : List Log.Event}
    (added : source.addFile files path space = .ok (after, events)) :
    source.Gains [path] after := by
  obtain ⟨text, items, -, read, rfl⟩ := exists_items_of_addFile added
  refine ⟨by rw [files_addAll], ⟨_, entries_addAll _ _, fun entry member => ?_⟩, diagnostics_addAll _ _⟩
  obtain ⟨index, bound, rfl⟩ := List.mem_mapIdx.mp member
  obtain ⟨place, location⟩ := Index.location_of_mem_itemsFindings (List.getElem_mem bound)
  exact ⟨path, List.mem_singleton_self path, place, location⟩

/-- Whether files of a tree can be added one behind another, and what they make of the source and of what is around it. -/
inductive Adds (root : FilePath) : List FilePath → Source → Workspace → Source → Workspace → Prop
  | nil (source : Source) (work : Workspace) : Adds root [] source work source work
  | cons {path : FilePath} {paths : List FilePath} {source middle after : Source} {work later : Workspace}
      {events : List Log.Event}
      (added : source.addFile work.files path (.ofFile root path) = .ok (middle, events))
      (adds : Adds root paths middle (work.logAll events) after later) : Adds root (path :: paths) source work after later

theorem Adds.gains {paths : List FilePath} (adds : Adds root paths source work after later) :
    source.Gains paths after := by
  induction adds with
  | nil source work => exact .refl source
  | cons added _ ih => exact (gains_of_addFile added).trans ih

/-- What adding files of a tree in turn comes to, on a walk that something may stop behind them. All of them are added, or those
in front of the first one that cannot be; then the error is that of this file, and nothing of it is in the source. -/
inductive InTurn (root : FilePath) (paths : List FilePath) (stop : Option WalkError) (source : Source) (work : Workspace) :
    Loading → Prop
  | whole {after : Source} {later : Workspace} (adds : Adds root paths source work after later)
      (gains : source.Gains paths after) : InTurn root paths stop source work ⟨after, later, stop.map .unwalkable⟩
  | stopped {front back : List FilePath} {path : FilePath} {after : Source} {later : Workspace} {reason : SourceError}
      (split : paths = front ++ path :: back) (adds : Adds root front source work after later)
      (refused : after.addFile later.files path (.ofFile root path) = .error reason) (own : reason.path = path)
      (gains : source.Gains front after) : InTurn root paths stop source work ⟨after, later, some reason⟩

theorem path_of_addFile {files : FileSystem} {path : FilePath} {space : Namespace} {reason : SourceError}
    (refused : source.addFile files path space = .error reason) : reason.path = path := by
  cases fault : fault? files path with
  | none =>
      obtain ⟨_, _, added, -⟩ := addFile_of_faultless source space fault
      rw [refused] at added
      contradiction
  | some cause =>
      rw [addFile_of_fault source space fault] at refused
      cases refused
      exact path_of_fault? fault

theorem inTurn_addFiles (root : FilePath) (paths : List FilePath) (stop : Option WalkError) (source : Source)
    (work : Workspace) : InTurn root paths stop source work { addFiles root paths source work with
      error := (addFiles root paths source work).error.or (stop.map .unwalkable) } := by
  induction paths generalizing source work with
  | nil => exact .whole (.nil source work) (.refl source)
  | cons path paths ih =>
      unfold addFiles
      split
      · rename_i reason refused
        exact .stopped rfl (.nil source work) refused (path_of_addFile refused) (.refl source)
      · rename_i middle events added
        have further := ih middle (work.logAll events)
        generalize ({ addFiles root paths middle (work.logAll events) with error := _ } : Loading) = loading at further ⊢
        cases further with
        | whole adds _ => exact .whole (.cons added adds) (Adds.cons added adds).gains
        | stopped split adds refused own _ =>
            have whole := (congrArg (path :: ·) split).trans (List.cons_append ..).symm
            exact .stopped whole (.cons added adds) refused own (Adds.cons added adds).gains

/-- Loading a directory is adding in turn the Rust files in front of the first directory that cannot be listed, in the order of
the names that lead to them. In place it comes to the same, and wherever a text or a file cannot be loaded, the source and the
log are left as they were. -/
theorem addDirectory_inTurn (sorted : work.files.IsSorted) (named : work.files.NamesBelow root)
    (isDirectory : work.files.isDirectory root = true) :
    (∃ listing stop, work.files.Lists root listing ∧ work.files.StoppedBy root stop ∧ ∀ source : Source,
      InTurn root (listing.map root.below) stop source work (source.addDirectory work root) ∧
        Editing.EndsAs (Editing.addDirectory root) source work (source.addDirectory work root)) ∧
      ∀ (source : Source) (around : Workspace) (space : Namespace),
        (∀ text file, Editing.ComesTo (Editing.addText text space file) source around (source.addText text space file)) ∧
          ∀ path, Editing.ComesTo (Editing.addFile path space) source around (source.addFile around.files path space) := by
  constructor
  · obtain ⟨listing, lists, stopped, scanned⟩ := FileSystem.exists_listing sorted isDirectory named
    refine ⟨listing, _, lists, stopped, fun source => ⟨?_, Editing.endsAs_addDirectory root source work⟩⟩
    unfold addDirectory
    rw [if_pos isDirectory, scanned]
    exact inTurn_addFiles root _ _ source work
  · exact fun source around space => ⟨fun text file => Editing.comesTo_addText source around text space file,
      fun path => Editing.comesTo_addFile source around path space⟩

/-- A source root in which two directories stand among files, as do a link and two files that are no Rust files by their names;
the last file is no Rust source. -/
def interleaved (closed : List (List String)) : Workspace :=
  .ofFiles ⟨.directory [("src", .directory [(".rs", .file "struct Hidden;".toUTF8),
    ("a", .directory [("x.rs", .file "#[m] struct X;".toUTF8)]), ("a.md", .file ByteArray.empty),
    ("a.rs", .file "#[m] struct A;".toUTF8), ("b", .directory [("y.rs", .file "#[m] struct Y;".toUTF8)]),
    ("b.rs", .link "a.rs"), ("c.rs", .file "struct".toUTF8)])], [], closed⟩

theorem isSorted_interleaved (closed : List (List String)) : (interleaved closed).files.IsSorted := by
  have inOrder : [".rs", "a", "a.md", "a.rs", "b", "b.rs", "c.rs"].Pairwise (· < ·) := by decide +kernel
  exact ⟨by simpa [interleaved, Workspace.ofFiles, Node.IsSorted, Node.AreSorted] using inOrder⟩

theorem namesBelow_interleaved (closed : List (List String)) : (interleaved closed).files.NamesBelow ⟨"src"⟩ := by
  have names : IsName ".rs" ∧ IsName "a" ∧ IsName "x.rs" ∧ IsName "a.md" ∧ IsName "a.rs" ∧ IsName "b" ∧ IsName "y.rs" ∧
      IsName "b.rs" ∧ IsName "c.rs" := by
    decide
  rintro _ ⟨⟩
  simpa [Node.IsNamed, Node.AreNamed] using names

/-- A directory comes in front of the file of its name, and neither a link nor a file that is called by the extension alone is
listed; nor is anything from a directory on that may not be listed. -/
theorem addDirectory_inTurn_interleaved :
    (∃ listing, (interleaved []).files.Lists ⟨"src"⟩ listing ∧ ["a", "x.rs"] ∈ listing ∧ ["a.rs"] ∈ listing ∧
      Precedes ["a", "x.rs"] ["a.rs"] ∧ ["c.rs"] ∈ listing ∧ [".rs"] ∉ listing ∧ ["b.rs"] ∉ listing ∧ ∀ source : Source,
        InTurn ⟨"src"⟩ (listing.map (FilePath.below ⟨"src"⟩)) none source (interleaved [])
          (source.addDirectory (interleaved []) ⟨"src"⟩)) ∧
    ∃ listing, (interleaved [["src", "b"]]).files.Lists ⟨"src"⟩ listing ∧ ["b", "y.rs"] ∉ listing ∧ ["c.rs"] ∉ listing ∧
      ∀ source : Source, InTurn ⟨"src"⟩ (listing.map (FilePath.below ⟨"src"⟩)) (some ⟨⟨"src/b"⟩, .permissionDenied⟩) source
        (interleaved [["src", "b"]]) (source.addDirectory (interleaved [["src", "b"]]) ⟨"src"⟩) := by
  have stoppedBy : ∀ closed error, ((interleaved closed).files.walk ⟨"src"⟩).error = error →
      (interleaved closed).files.StoppedBy ⟨"src"⟩ error := by
    rintro closed _ rfl
    obtain ⟨-, -, stopped, -⟩ := FileSystem.exists_listing (isSorted_interleaved closed) rfl (namesBelow_interleaved closed)
    exact stopped
  constructor
  · obtain ⟨⟨listing, stop, lists, stopped, inTurn⟩, -⟩ :=
      addDirectory_inTurn (isSorted_interleaved []) (namesBelow_interleaved []) rfl
    obtain rfl := stopped.unique (stoppedBy [] none (by decide +kernel))
    cases stopped with
    | nothing isOpen =>
        have listed : ∀ names, names ∈ listing ↔ (interleaved []).files.IsRustFileBelow ⟨"src"⟩ names := fun names =>
          (lists.complete names).trans (and_iff_left fun other cause barred => absurd barred (isOpen other cause))
        refine ⟨listing, lists, ?_, ?_, .rel (by decide), ?_, fun isListed => ?_, fun isListed => ?_, fun source =>
          (inTurn source).1⟩
        · exact (listed _).mpr ⟨⟨_, _, rfl, rfl⟩, ["a"], "x", by decide, by decide⟩
        · exact (listed _).mpr ⟨⟨_, _, rfl, rfl⟩, [], "a", by decide, by decide⟩
        · exact (listed _).mpr ⟨⟨_, _, rfl, rfl⟩, [], "c", by decide, by decide⟩
        · obtain ⟨-, directories, stem, someStem, same⟩ := (listed _).mp isListed
          have divided : [] ++ ["" ++ ".rs"] = directories ++ [stem ++ ".rs"] := same
          have noStem := (String.append_left_inj ".rs").mp (List.append_singleton_inj.mp divided).2
          exact someStem noStem.symm
        · obtain ⟨⟨node, content, ⟨⟩, isFile⟩, -⟩ := (listed _).mp isListed
          have isLink : some (Node.link "a.rs") = some (Node.file content) := isFile
          cases isLink
  · obtain ⟨⟨listing, stop, lists, stopped, inTurn⟩, -⟩ :=
      addDirectory_inTurn (isSorted_interleaved [["src", "b"]]) (namesBelow_interleaved [["src", "b"]]) rfl
    obtain rfl := stopped.unique (stoppedBy _ (some ⟨⟨"src/b"⟩, .permissionDenied⟩) (by decide +kernel))
    have refused : ((interleaved [["src", "b"]]).files.list ⟨"src/b"⟩).isOk = false := by decide +kernel
    obtain ⟨cause, barred⟩ : ∃ cause, (interleaved [["src", "b"]]).files.IsBarredBelow ⟨"src"⟩ ["b"] cause := by
      cases listed : (interleaved [["src", "b"]]).files.list ⟨"src/b"⟩ with
      | error cause => exact ⟨cause, ⟨_, _, rfl, rfl⟩, listed⟩
      | ok entries =>
          rw [listed] at refused
          contradiction
    have inFront : ∀ names ∈ listing, Precedes names ["b"] := fun names isListed =>
      ((lists.complete names).mp isListed).2 ["b"] cause barred
    refine ⟨listing, lists, fun isListed => ?_, fun isListed => ?_, fun source => (inTurn source).1⟩
    · exact (inFront _ isListed).asymm (.cons .nil)
    · exact (inFront _ isListed).asymm (.rel (by decide))

/-- Loading ends at the file that is no Rust source, or at the directory that may not be listed, with what was found in front. -/
example :
    let loading := empty.addDirectory (interleaved []) ⟨"src"⟩
    let shorter := empty.addDirectory (interleaved [["src", "b"]]) ⟨"src"⟩
    (loading.source.files.map (·.text) = ["src/a/x.rs", "src/a.rs", "src/b/y.rs"] ∧
      loading.error.map (·.path) = some ⟨"src/c.rs"⟩) ∧
      (shorter.source.declarationsWith "m").map (·.name) = ["X", "A"] ∧
      shorter.error = some (.unwalkable ⟨⟨"src/b"⟩, .permissionDenied⟩) := by
  decide +kernel

/-- Not all Rust files below a directory are added in turn, if there is a directory that may not be listed. -/
theorem addDirectory_not_of_all :
    ¬ ∀ (work : Workspace) (root : FilePath) (source : Source) (listing : List (List String)), work.files.IsSorted →
      work.files.NamesBelow root → work.files.isDirectory root = true →
      (∀ names, names ∈ listing ↔ work.files.IsRustFileBelow root names) →
      InTurn root (listing.map root.below) none source work (source.addDirectory work root) := by
  intro claimed
  have sorted := isSorted_interleaved [["src", "b"]]
  have named := namesBelow_interleaved [["src", "b"]]
  have inTurn := claimed _ ⟨"src"⟩ empty _ sorted named rfl
    fun names => (FileSystem.isRustFileBelow_iff sorted rfl named).symm
  have ended : (empty.addDirectory (interleaved [["src", "b"]]) ⟨"src"⟩).error =
      some (.unwalkable ⟨⟨"src/b"⟩, .permissionDenied⟩) := by
    decide +kernel
  generalize empty.addDirectory (interleaved [["src", "b"]]) ⟨"src"⟩ = loading at inTurn ended
  cases inTurn with
  | whole adds gains => cases ended
  | @stopped front back path after later reason split adds refused own gains =>
      -- The error is that of a directory, and a directory is no Rust file.
      have isPath : path = ⟨"src/b"⟩ := by rw [← own, Option.some.inj ended, SourceError.path]
      obtain ⟨names, listed, same⟩ := List.mem_map.mp (by rw [split]; exact List.mem_append_cons_self)
      have isRustFile := (FileSystem.mem_rustNames_iff.mp listed).2
      rw [same, isPath] at isRustFile
      exact absurd isRustFile (by decide)

end Source

end Companion
