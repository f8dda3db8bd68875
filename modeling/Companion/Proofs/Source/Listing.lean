import Companion.Proofs.FileSystem.Insertion
import Companion.Proofs.FileSystem.Listing
import Companion.Proofs.Source.Loading

/-!
What a walk of a source tree lists. The Rust files below a directory come in the order of the names that lead to them, up to
the first directory that cannot be listed; whatever stands behind that is not found.
-/

set_option autoImplicit false

namespace Companion

namespace FileSystem

variable {files : FileSystem} {root : FilePath}

/-- Whether names lead from a directory to a regular file, and not over a link, and the last of them has the extension of
Rust source with something in front of it. -/
structure IsRustFileBelow (files : FileSystem) (root : FilePath) (names : List String) : Prop where
  regular : ∃ node content, files.nodeAt? root = some node ∧ node.get? names = some (.file content)
  extension : ∃ directories stem, stem ≠ "" ∧ names = directories ++ [stem ++ ".rs"]

/-- Whether names lead from a directory to one, and not over a link, that cannot be listed. -/
structure IsBarredBelow (files : FileSystem) (root : FilePath) (names : List String) (cause : OsError) : Prop where
  directory : ∃ node entries, files.nodeAt? root = some node ∧ node.get? names = some (.directory entries)
  refused : files.list (root.below names) = .error cause

/-- What a walk is stopped by: the first directory that cannot be listed, if there is any. -/
inductive StoppedBy (files : FileSystem) (root : FilePath) : Option WalkError → Prop
  | nothing (isOpen : ∀ names cause, ¬ files.IsBarredBelow root names cause) : StoppedBy files root none
  | directory {names : List String} {cause : OsError} (barred : files.IsBarredBelow root names cause)
      (isFirst : ∀ other reason, files.IsBarredBelow root other reason → other = names ∨ Precedes names other) :
      StoppedBy files root (some ⟨root.below names, cause⟩)

/-- The names that lead to the Rust files below a directory, each once, in order; of these, all that stand in front of the
directories that cannot be listed. -/
structure Lists (files : FileSystem) (root : FilePath) (listing : List (List String)) : Prop where
  complete : ∀ names, names ∈ listing ↔ files.IsRustFileBelow root names ∧
    ∀ other cause, files.IsBarredBelow root other cause → Precedes names other
  ordered : listing.Pairwise Precedes
  nodup : (listing.map root.below).Nodup

theorem StoppedBy.unique {first second : Option WalkError} (stopped : files.StoppedBy root first)
    (other : files.StoppedBy root second) : first = second := by
  cases stopped with
  | nothing isOpen =>
      cases other with
      | nothing _ => rfl
      | directory barred _ => exact absurd barred (isOpen _ _)
  | @directory names cause barred isFirst =>
      cases other with
      | nothing isOpen => exact absurd barred (isOpen _ _)
      | @directory others reason otherBarred otherFirst =>
          obtain rfl | behind := isFirst _ _ otherBarred
          · obtain rfl := Except.error.inj (barred.refused.symm.trans otherBarred.refused)
            rfl
          · obtain rfl | before := otherFirst _ _ barred
            · exact absurd rfl behind.ne
            · exact absurd before behind.asymm

def rustNames (root : FilePath) (stops : List (List String × Node.Face)) : List (List String) :=
  stops.filterMap fun
    | (names, .file _) => if Source.isRustFile (root.below names) then some names else none
    | _ => none

theorem filter_filePaths (root : FilePath) (stops : List (List String × Node.Face)) :
    (filePaths root stops).filter Source.isRustFile = (rustNames root stops).map root.below := by
  induction stops with
  | nil => rfl
  | cons stop stops ih =>
      obtain ⟨names, face⟩ := stop
      cases face with
      | file content =>
          simp only [filePaths, rustNames, List.filterMap_cons, List.filter_cons] at ih ⊢
          split <;> simp [ih]
      | link target => exact ih
      | directory => exact ih

theorem mem_rustNames_iff {stops : List (List String × Node.Face)} {names : List String} :
    names ∈ rustNames root stops ↔
      (∃ content, (names, .file content) ∈ stops) ∧ Source.isRustFile (root.below names) = true := by
  rw [rustNames, List.mem_filterMap]
  constructor
  · rintro ⟨⟨others, face⟩, member, same⟩
    cases face with
    | file content =>
        obtain ⟨isRustFile, rfl⟩ : Source.isRustFile (root.below others) = true ∧ others = names := by simpa using same
        exact ⟨⟨content, member⟩, isRustFile⟩
    | link target => contradiction
    | directory => contradiction
  · rintro ⟨⟨content, member⟩, isRustFile⟩
    exact ⟨_, member, by simp [isRustFile]⟩

section Listed

variable (sorted : files.IsSorted) (isDirectory : files.isDirectory root = true)
include sorted isDirectory

theorem exists_sorted_directory : ∃ entries, files.nodeAt? root = some (.directory entries) ∧ (Node.directory entries).IsSorted := by
  obtain ⟨place, leads⟩ := exists_leadsTo isDirectory
  obtain ⟨entries, found⟩ := leads.get?
  exact ⟨entries, leads.nodeAt?_eq.trans found, sorted.root.get? found⟩

theorem mem_stopsBelow_iff {names : List String} {face : Node.Face} : (names, face) ∈ files.stopsBelow root ↔
    ∃ node, files.nodeAt? root = some node ∧ node.face? names = some face := by
  obtain ⟨entries, isThere, nodeSorted⟩ := exists_sorted_directory sorted isDirectory
  rw [stopsBelow, isThere]
  simpa using Node.mem_stops_iff nodeSorted

theorem pairwise_stopsBelow : (files.stopsBelow root).Pairwise fun first second => Precedes first.1 second.1 := by
  obtain ⟨entries, isThere, nodeSorted⟩ := exists_sorted_directory sorted isDirectory
  rw [stopsBelow, isThere]
  exact (Node.pairwise_stops nodeSorted).imp precedes_of_lex

theorem isBarredBelow_iff {names : List String} {cause : OsError} : files.IsBarredBelow root names cause ↔
    (names, .directory) ∈ files.stopsBelow root ∧ files.list (root.below names) = .error cause := by
  rw [mem_stopsBelow_iff sorted isDirectory]
  constructor
  · rintro ⟨⟨node, entries, isThere, found⟩, refused⟩
    exact ⟨⟨node, isThere, by rw [Node.face?, found]; rfl⟩, refused⟩
  · rintro ⟨⟨node, isThere, face⟩, refused⟩
    obtain ⟨entries, found⟩ := Node.exists_directory_of_face? face
    exact ⟨⟨node, entries, isThere, found⟩, refused⟩

variable (named : files.NamesBelow root)
include named

/-- Below a directory, what leads to a file is some names of entries. -/
theorem areNames_of_file {names : List String} {content : ByteArray} (member : (names, .file content) ∈ files.stopsBelow root) :
    names ≠ [] ∧ ∀ name ∈ names, IsName name := by
  obtain ⟨entries, isThere, -⟩ := exists_sorted_directory sorted isDirectory
  have areNamed : Node.AreNamed entries := named _ isThere
  rw [stopsBelow, isThere] at member
  exact Node.areNames_of_mem_stopsOf areNamed (by simpa [Node.stops] using member)

theorem isRustFileBelow_iff {names : List String} :
    files.IsRustFileBelow root names ↔ names ∈ rustNames root (files.stopsBelow root) := by
  rw [mem_rustNames_iff]
  constructor
  · rintro ⟨⟨node, content, isThere, found⟩, extension⟩
    have member : (names, .file content) ∈ files.stopsBelow root :=
      (mem_stopsBelow_iff sorted isDirectory).mpr ⟨node, isThere, by rw [Node.face?, found]; rfl⟩
    obtain ⟨someNames, areNames⟩ := areNames_of_file sorted isDirectory named member
    exact ⟨⟨content, member⟩, (Source.isRustFile_below_iff (areEntries_of_areNames areNames) someNames).mpr extension⟩
  · rintro ⟨⟨content, member⟩, isRustFile⟩
    obtain ⟨someNames, areNames⟩ := areNames_of_file sorted isDirectory named member
    obtain ⟨node, isThere, face⟩ := (mem_stopsBelow_iff sorted isDirectory).mp member
    exact ⟨⟨node, content, isThere, Node.get?_of_face?_file face⟩,
      (Source.isRustFile_below_iff (areEntries_of_areNames areNames) someNames).mp isRustFile⟩

/-- Stops in front of all directories that cannot be listed, if they are all such stops, give the listing. -/
theorem lists_of_front {front back : List (List String × Node.Face)} (split : files.stopsBelow root = front ++ back)
    (isFront : ∀ names content, (names, .file content) ∈ files.stopsBelow root → ((names, .file content) ∈ front ↔
      ∀ other cause, files.IsBarredBelow root other cause → Precedes names other)) :
    files.Lists root (rustNames root front) := by
  have inFront : ∀ stop ∈ front, stop ∈ files.stopsBelow root := fun stop member =>
    split ▸ List.mem_append_left back member
  have ordered : (rustNames root front).Pairwise Precedes := by
    have whole := pairwise_stopsBelow sorted isDirectory
    rw [split] at whole
    refine List.pairwise_filterMap.mpr ((List.pairwise_append.mp whole).1.imp ?_)
    rintro ⟨first, face⟩ ⟨second, other⟩ before names same others sameToo
    cases face <;> cases other <;> simp_all
  refine ⟨fun names => ?_, ordered, ?_⟩
  · rw [isRustFileBelow_iff sorted isDirectory named, mem_rustNames_iff, mem_rustNames_iff]
    constructor
    · rintro ⟨⟨content, member⟩, isRustFile⟩
      exact ⟨⟨⟨content, inFront _ member⟩, isRustFile⟩, (isFront names content (inFront _ member)).mp member⟩
    · rintro ⟨⟨⟨content, member⟩, isRustFile⟩, precedes⟩
      exact ⟨⟨content, (isFront names content member).mpr precedes⟩, isRustFile⟩
  · have areSteps : ∀ names ∈ rustNames root front, ∀ name ∈ names, IsStep name := fun names listed => by
      obtain ⟨⟨content, member⟩, -⟩ := mem_rustNames_iff.mp listed
      exact areSteps_of_areNames (areNames_of_file sorted isDirectory named (inFront _ member)).2
    refine List.pairwise_map.mpr (ordered.imp_of_mem fun {names others} listed otherListed before same => ?_)
    exact before.ne (root.below_injective (areSteps names listed) (areSteps others otherListed) same)

/-- A walk comes to the Rust files in front of the first directory that cannot be listed, and ends there. -/
theorem exists_listing : ∃ listing, files.Lists root listing ∧ files.StoppedBy root (files.walk root).error ∧
    Source.rustFiles files root = listing.map root.below := by
  have goes := files.goes_along root (files.stopsBelow root)
  unfold Source.rustFiles
  rw [walk]
  generalize files.along root (files.stopsBelow root) = walk at goes ⊢
  cases goes with
  | whole listable =>
      have nothing : ∀ names cause, ¬ files.IsBarredBelow root names cause := by
        intro names cause barred
        obtain ⟨member, refused⟩ := (isBarredBelow_iff sorted isDirectory).mp barred
        exact not_listable refused (listable _ (mem_directoryPaths_iff.mpr ⟨names, member, rfl⟩))
      refine ⟨_, lists_of_front sorted isDirectory named (List.append_nil _).symm fun names content member => ?_, .nothing nothing,
        filter_filePaths root _⟩
      exact iff_of_true member fun other cause barred => absurd barred (nothing other cause)
  | @barred front back names cause split listable refused =>
      have ordered := pairwise_stopsBelow sorted isDirectory
      rw [split, List.pairwise_append, List.pairwise_cons] at ordered
      obtain ⟨-, ⟨firstBehind, -⟩, frontFirst⟩ := ordered
      have isBarred : files.IsBarredBelow root names cause :=
        (isBarredBelow_iff sorted isDirectory).mpr ⟨split ▸ List.mem_append_cons_self, refused⟩
      -- No directory in front of the one at which the walk ends is barred.
      have isFirst : ∀ other reason, files.IsBarredBelow root other reason → (other, .directory) ∈ (names, .directory) :: back := by
        intro other reason barred
        obtain ⟨member, otherRefused⟩ := (isBarredBelow_iff sorted isDirectory).mp barred
        rw [split] at member
        refine (List.mem_append.mp member).resolve_left fun inFront => ?_
        exact not_listable otherRefused (listable _ (mem_directoryPaths_iff.mpr ⟨other, inFront, rfl⟩))
      refine ⟨_, lists_of_front sorted isDirectory named split fun others content member => ?_, .directory isBarred ?_,
        filter_filePaths root _⟩
      · constructor
        · intro inFront other reason barred
          exact frontFirst _ inFront _ (isFirst other reason barred)
        · intro precedes
          rw [split] at member
          refine (List.mem_append.mp member).resolve_right fun behind => ?_
          obtain same | inBack := List.mem_cons.mp behind
          · cases same
          · exact (precedes names cause isBarred).asymm (firstBehind _ inBack)
      · intro other reason barred
        obtain same | inBack := List.mem_cons.mp (isFirst other reason barred)
        · exact .inl (congrArg Prod.fst same)
        · exact .inr (firstBehind _ inBack)

end Listed

end FileSystem

end Companion
