import Companion.Proofs.FileSystem.Face
import Companion.FileSystem.Walk
import Mathlib.Data.String.Basic

/-!
Trees whose directories keep their entries in the order of their names. Whatever is put into such a tree, it stays one. The
stops of a tree stand at the paths by which a walk names them, and those of a node that comes to a free name stand in one
block among the others.
-/

set_option autoImplicit false

namespace Companion

namespace Node

mutual

/-- Whether the entries of all directories, at any depth, are in the order of their names. -/
def IsSorted : Node → Prop
  | file _ | link _ => True
  | directory entries => AreSorted entries

/-- Whether entries are in the order of their names, and so are those of all directories inside them. -/
def AreSorted : List (String × Node) → Prop
  | [] => True
  | (name, node) :: others => (∀ other ∈ others, name < other.1) ∧ IsSorted node ∧ AreSorted others

end

variable {root node child new : Node} {entries : List (String × Node)} {name : String} {names place : List String}

theorem mem_of_entry (entered : entry? name entries = some child) : (name, child) ∈ entries := by
  induction entries with
  | nil => contradiction
  | cons found others ih =>
      obtain ⟨key, old⟩ := found
      unfold entry? at entered
      split at entered
      · rename_i same
        cases entered
        simp [same]
      · exact List.mem_cons_of_mem _ (ih entered)

theorem AreSorted.of_mem (sorted : AreSorted entries) (member : (name, child) ∈ entries) : child.IsSorted := by
  induction entries with
  | nil => contradiction
  | cons found others ih =>
      obtain ⟨key, old⟩ := found
      obtain same | inOthers := List.mem_cons.mp member
      · cases same
        exact sorted.2.1
      · exact ih sorted.2.2 inOthers

theorem mem_setEntry {found : String × Node} (member : found ∈ setEntry name node entries) :
    found = (name, node) ∨ found ∈ entries := by
  induction entries with
  | nil => exact .inl (by simpa [setEntry] using member)
  | cons first others ih =>
      obtain ⟨key, old⟩ := first
      unfold setEntry at member
      split at member
      · rename_i same
        obtain rfl | inOthers := List.mem_cons.mp member
        · exact .inl (by rw [same])
        · exact .inr (List.mem_cons_of_mem _ inOthers)
      · split at member
        · exact List.mem_cons.mp member
        · obtain rfl | inOthers := List.mem_cons.mp member
          · exact .inr List.mem_cons_self
          · exact (ih inOthers).imp_right (List.mem_cons_of_mem _)

theorem AreSorted.setEntry (sorted : AreSorted entries) (isSorted : node.IsSorted) :
    AreSorted (setEntry name node entries) := by
  induction entries with
  | nil => exact ⟨by simp, isSorted, trivial⟩
  | cons first others ih =>
      obtain ⟨key, old⟩ := first
      obtain ⟨before, oldSorted, othersSorted⟩ := id sorted
      unfold Node.setEntry
      split
      · exact ⟨before, isSorted, othersSorted⟩
      · rename_i different
        split
        · rename_i less
          refine ⟨fun other member => ?_, isSorted, sorted⟩
          obtain rfl | inOthers := List.mem_cons.mp member
          · exact less
          · exact less.trans (before other inOthers)
        · rename_i notLess
          refine ⟨fun other member => ?_, oldSorted, ih othersSorted⟩
          obtain rfl | inOthers := mem_setEntry member
          · exact lt_of_le_of_ne (not_lt.mp notLess) different
          · exact before other inOthers

/-- A new name comes to stand between two parts of the entries. -/
theorem setEntry_of_free (isFree : entry? name entries = none) (node : Node) :
    ∃ front back, entries = front ++ back ∧ setEntry name node entries = front ++ (name, node) :: back := by
  induction entries with
  | nil => exact ⟨[], [], rfl, rfl⟩
  | cons first others ih =>
      obtain ⟨key, old⟩ := first
      unfold entry? at isFree
      split at isFree
      · contradiction
      · rename_i different
        unfold setEntry
        rw [if_neg different]
        split
        · exact ⟨[], (key, old) :: others, rfl, rfl⟩
        · obtain ⟨front, back, rfl, set⟩ := ih isFree
          exact ⟨(key, old) :: front, back, rfl, by rw [set, List.cons_append]⟩

theorem setEntry_of_entry (sorted : AreSorted entries) (entered : entry? name entries = some child) (node : Node) :
    ∃ front back, entries = front ++ (name, child) :: back ∧ setEntry name node entries = front ++ (name, node) :: back := by
  induction entries with
  | nil => contradiction
  | cons first others ih =>
      obtain ⟨key, old⟩ := first
      unfold entry? at entered
      unfold setEntry
      split at entered
      · rename_i same
        cases entered
        subst same
        exact ⟨[], others, rfl, by simp⟩
      · rename_i different
        have less : key < name := sorted.1 _ (mem_of_entry entered)
        obtain ⟨front, back, rfl, set⟩ := ih sorted.2.2 entered
        rw [if_neg different, if_neg (lt_asymm less)]
        exact ⟨(key, old) :: front, back, rfl, by rw [set, List.cons_append]⟩

theorem isSorted_file (content : ByteArray) : (file content).IsSorted := by
  simp [IsSorted]

theorem isSorted_emptyDirectory : emptyDirectory.IsSorted := by
  simp [emptyDirectory, IsSorted, AreSorted]

theorem IsSorted.put (sorted : root.IsSorted) (newSorted : new.IsSorted) (names : List String) :
    (put new root names).IsSorted := by
  induction names generalizing root with
  | nil => cases root <;> exact newSorted
  | cons name names ih =>
      cases root with
      | file content => simpa [Node.put] using sorted
      | link target => simpa [Node.put] using sorted
      | directory entries =>
          cases names with
          | nil => exact AreSorted.setEntry sorted newSorted
          | cons next names =>
              unfold Node.put
              split
              · rename_i child entered
                exact AreSorted.setEntry sorted (ih (AreSorted.of_mem sorted (mem_of_entry entered)))
              · exact sorted

mutual

theorem face?_of_mem_stops {node : Node} (sorted : node.IsSorted) {names : List String} {face : Face}
    (member : (names, face) ∈ node.stops) : node.face? names = some face := by
  cases node with
  | file content =>
      obtain ⟨rfl, rfl⟩ : names = [] ∧ face = .file content := by simpa [stops] using member
      simp [Node.face]
  | link target =>
      obtain ⟨rfl, rfl⟩ : names = [] ∧ face = .link target := by simpa [stops] using member
      simp [Node.face]
  | directory entries =>
      obtain ⟨rfl, rfl⟩ | inside : (names = [] ∧ face = .directory) ∨ (names, face) ∈ stopsOf entries := by
        simpa [stops] using member
      · simp [Node.face]
      · obtain ⟨name, rest, child, rfl, entered, below⟩ := entry?_of_mem_stopsOf sorted inside
        rw [face?_directory_cons, entered, Option.bind_some, below]

theorem entry?_of_mem_stopsOf {entries : List (String × Node)} (sorted : AreSorted entries) {names : List String}
    {face : Face} (member : (names, face) ∈ stopsOf entries) :
    ∃ name rest child, names = name :: rest ∧ entry? name entries = some child ∧ child.face? rest = some face := by
  match entries with
  | [] => simp [stopsOf] at member
  | (key, node) :: others =>
      obtain ⟨before, isSorted, othersSorted⟩ := sorted
      unfold stopsOf at member
      obtain inNode | inOthers := List.mem_append.mp member
      · obtain ⟨⟨inner, _⟩, isInside, same⟩ := List.mem_map.mp inNode
        cases same
        exact ⟨key, inner, node, rfl, by simp [Node.entry?], face?_of_mem_stops isSorted isInside⟩
      · obtain ⟨name, rest, child, rfl, entered, inside⟩ := entry?_of_mem_stopsOf othersSorted inOthers
        have different : key ≠ name := (before _ (mem_of_entry entered)).ne
        exact ⟨name, rest, child, rfl, by simpa [Node.entry?, different] using entered, inside⟩

end

theorem stopsOf_append (front back : List (String × Node)) : stopsOf (front ++ back) = stopsOf front ++ stopsOf back := by
  induction front with
  | nil => rfl
  | cons first others ih =>
      obtain ⟨name, node⟩ := first
      simp only [List.cons_append, stopsOf, ih, List.append_assoc]

/-- The stops of a node that comes to a free name stand in one block among the others. -/
theorem stops_put_of_free (sorted : root.IsSorted) (isDirectory : root.get? place = some (directory entries))
    (isFree : entry? name entries = none) (new : Node) :
    ∃ front back, root.stops = front ++ back ∧ (put new root (place ++ [name])).stops =
      front ++ (new.stops.map fun stop => (place ++ name :: stop.1, stop.2)) ++ back := by
  induction place generalizing root with
  | nil =>
      obtain rfl : root = directory entries := by simpa using isDirectory
      obtain ⟨front, back, whole, set⟩ := setEntry_of_free isFree new
      refine ⟨([], .directory) :: stopsOf front, stopsOf back, ?_, ?_⟩
      · rw [stops, whole, stopsOf_append, List.cons_append]
      · simp only [List.nil_append, put, set, stops, stopsOf_append, stopsOf, List.append_assoc, List.cons_append]
  | cons step place ih =>
      cases root with
      | file content => contradiction
      | link target => contradiction
      | directory outer =>
          rw [get?_cons] at isDirectory
          obtain ⟨child, entered, inside⟩ := Option.bind_eq_some_iff.mp isDirectory
          obtain ⟨front, back, whole, inserted⟩ := ih (AreSorted.of_mem sorted (mem_of_entry entered)) inside
          obtain ⟨before, behind, split, set⟩ :=
            setEntry_of_entry sorted entered (put new child (place ++ [name]))
          refine ⟨([], .directory) :: stopsOf before ++ front.map (fun stop => (step :: stop.1, stop.2)),
            back.map (fun stop => (step :: stop.1, stop.2)) ++ stopsOf behind, ?_, ?_⟩
          · rw [stops, split, stopsOf_append, stopsOf, whole]
            simp
          · have putInside : put new (directory outer) (step :: place ++ [name]) =
                directory (setEntry step (put new child (place ++ [name])) outer) := by
              cases place <;> simp [put, entered]
            rw [putInside, stops, set, stopsOf_append, stopsOf, inserted]
            simp

end Node

namespace FileSystem

variable {files made : FileSystem} {path : FilePath}

/-- What is kept when a directory is made is kept when its parents are made before it, also if that fails. -/
theorem makeDirectoriesWithin_keeps {kept : FileSystem → Prop}
    (step : ∀ {files made : FileSystem} {path : FilePath}, kept files → files.makeDirectory path = .ok made → kept made)
    (depth : Nat) (path : FilePath) {files : FileSystem} (start : kept files) :
    kept (makeDirectoriesWithin depth path files).1 := by
  induction depth generalizing path with
  | zero => exact start
  | succ depth ih =>
      unfold makeDirectoriesWithin
      split
      · exact start
      · split
        · exact step start ‹_›
        · split
          · exact start
          · rename_i parent _
            have parents := ih parent
            split
            · rename_i reached
              rwa [reached] at parents
            · rename_i reached
              rw [reached] at parents
              split
              · exact step parents ‹_›
              · exact parents
        · exact start

/-- Whether the directories of a tree keep their entries in the order of their names. -/
structure IsSorted (files : FileSystem) : Prop where
  root : files.root.IsSorted

namespace IsSorted

theorem put (sorted : files.IsSorted) {node : Node} (isSorted : node.IsSorted) (names : List String) :
    (files.put names node).IsSorted :=
  ⟨sorted.root.put isSorted names⟩

theorem makeDirectory (sorted : files.IsSorted) (happened : files.makeDirectory path = .ok made) : made.IsSorted := by
  unfold FileSystem.makeDirectory at happened
  split at happened
  · contradiction
  · contradiction
  · cases happened
    exact sorted.put Node.isSorted_emptyDirectory _

theorem makeDirectoriesWithin (sorted : files.IsSorted) (depth : Nat) (path : FilePath) :
    (makeDirectoriesWithin depth path files).1.IsSorted :=
  makeDirectoriesWithin_keeps makeDirectory depth path sorted

theorem write (sorted : files.IsSorted) {text : String} (wrote : files.write path text = .ok made) : made.IsSorted := by
  unfold FileSystem.write at wrote
  split at wrote
  · contradiction
  all_goals
    cases wrote
    exact sorted.put (Node.isSorted_file _) _

end IsSorted

end FileSystem

end Companion
