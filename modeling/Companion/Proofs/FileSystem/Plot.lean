import Companion.Proofs.FileSystem.Links

/-!
A free place in a tree, and what comes to stand there. All that is done below the place can be done apart as well, in a
tree that has nothing but the place: what is found there is the same, and so is what comes of it. The tree around the
place may have symbolic links, since the place is named by the directory that they lead to.
-/

set_option autoImplicit false

namespace Companion

namespace Node

variable {root node child : Node} {entries : List (String × Node)} {name : String} {place front names : List String}

@[simp] theorem put_nil (new root : Node) : put new root [] = new := by
  cases root <;> rfl

theorem setEntry_setEntry (name : String) (first second : Node) (entries : List (String × Node)) :
    setEntry name second (setEntry name first entries) = setEntry name second entries := by
  induction entries with
  | nil => simp [setEntry]
  | cons found others ih =>
      obtain ⟨key, old⟩ := found
      simp only [setEntry]
      split
      · simp [setEntry, *]
      · split
        · simp [setEntry]
        · simp [setEntry, *]

/-- Putting a node inside an entry puts it into what the entry holds. -/
theorem put_of_entry (entered : entry? name entries = some child) (new : Node) (names : List String) :
    put new (directory entries) (name :: names) = directory (setEntry name (put new child names) entries) := by
  cases names with
  | nil => simp [put]
  | cons next names => simp [put, entered]

theorem get?_put_front (found : root.get? front = some node) (new : Node) (names : List String) :
    (put new root (front ++ names)).get? front = some (put new node names) := by
  induction front generalizing root with
  | nil =>
      obtain rfl : root = node := by simpa using found
      simp
  | cons name front ih =>
      cases root with
      | file content => contradiction
      | link target => contradiction
      | directory entries =>
          rw [get?_cons] at found
          obtain ⟨child, entered, inside⟩ := Option.bind_eq_some_iff.mp found
          rw [List.cons_append, put_of_entry entered, get?_cons, entry?_setEntry, if_pos rfl, Option.bind_some]
          exact ih inside

theorem put_put (isDirectory : root.get? place = some (directory entries)) (first second : Node) (name : String)
    (names : List String) :
    put second (put first root (place ++ [name])) (place ++ name :: names) =
      put (put second first names) root (place ++ [name]) := by
  induction place generalizing root with
  | nil =>
      obtain rfl : root = directory entries := by simpa using isDirectory
      have entered : entry? name (setEntry name first entries) = some first := by simp [entry?_setEntry]
      simp only [List.nil_append, put, put_of_entry entered, setEntry_setEntry]
  | cons next place ih =>
      cases root with
      | file content => contradiction
      | link target => contradiction
      | directory outer =>
          rw [get?_cons] at isDirectory
          obtain ⟨child, entered, inside⟩ := Option.bind_eq_some_iff.mp isDirectory
          have there : entry? next (setEntry next (put first child (place ++ [name])) outer) =
              some (put first child (place ++ [name])) := by simp [entry?_setEntry]
          rw [List.cons_append, List.cons_append, put_of_entry entered, put_of_entry there, setEntry_setEntry,
            put_of_entry entered, ih inside]

/-- Beside the place of a node that is put all is as it was, but for the directories that lead to the place. -/
theorem get?_put_outside (new root : Node) (outside : ¬ place <+: names) :
    (put new root place).get? names = root.get? names ∨
      names <+: place ∧ ∃ before after, root.get? names = some (directory before) ∧
        (put new root place).get? names = some (directory after) := by
  induction place generalizing root names with
  | nil => exact absurd List.nil_prefix outside
  | cons name place ih =>
      cases root with
      | file content => exact .inl (by simp [put])
      | link target => exact .inl (by simp [put])
      | directory entries =>
          cases entered : entry? name entries with
          | none =>
              cases place with
              | nil =>
                  cases names with
                  | nil => exact .inr ⟨List.nil_prefix, entries, _, get?_nil _, get?_nil _⟩
                  | cons key rest =>
                      have other : key ≠ name := fun same => outside (by simp [same])
                      exact .inl (by simp [put, get?_cons, entry?_setEntry, other])
              | cons next place => exact .inl (by simp [put, entered])
          | some child =>
              rw [put_of_entry entered]
              cases names with
              | nil => exact .inr ⟨List.nil_prefix, entries, _, get?_nil _, get?_nil _⟩
              | cons key rest =>
                  rw [get?_cons, get?_cons, entry?_setEntry]
                  by_cases same : key = name
                  · subst same
                    rw [if_pos rfl, entered, Option.bind_some, Option.bind_some]
                    have further : ¬ place <+: rest := fun isFront => outside ((List.prefix_cons_inj key).mpr isFront)
                    obtain unchanged | ⟨isFront, directories⟩ := ih child further
                    · exact .inl unchanged
                    · exact .inr ⟨(List.prefix_cons_inj key).mpr isFront, directories⟩
                  · exact .inl (by rw [if_neg same])

theorem face?_put_outside (new root : Node) (outside : ¬ place <+: names) :
    (put new root place).face? names = root.face? names := by
  unfold face?
  obtain same | ⟨-, _, _, before, after⟩ := get?_put_outside new root outside
  · rw [same]
  · rw [before, after]
    rfl

end Node

namespace FileSystem

structure Plot where
  files : FileSystem
  directory : List String
  name : String
  free : ∃ entries, files.get? directory = some (.directory entries) ∧ Node.entry? name entries = none

namespace Plot

variable (plot : Plot)

def place : List String :=
  plot.directory ++ [plot.name]

/-- The tree when something has come to the place. -/
def grown : Option Node → FileSystem
  | none => plot.files
  | some node => plot.files.put plot.place node

/-- A tree that has nothing but what has come to the place. -/
def apart : Option Node → FileSystem
  | none => .empty
  | some node => ⟨.directory [(plot.name, node)], [], []⟩

variable {plot}

@[simp] theorem working_grown (sub : Option Node) : (plot.grown sub).working = plot.files.working := by
  cases sub <;> rfl

@[simp] theorem closed_grown (sub : Option Node) : (plot.grown sub).closed = plot.files.closed := by
  cases sub <;> rfl

@[simp] theorem working_apart (sub : Option Node) : (plot.apart sub).working = [] := by
  cases sub <;> rfl

theorem exists_entries_grown (sub : Option Node) :
    ∃ entries, (plot.grown sub).get? plot.directory = some (.directory entries) ∧ Node.entry? plot.name entries = sub := by
  obtain ⟨entries, isDirectory, isFree⟩ := plot.free
  cases sub with
  | none => exact ⟨entries, isDirectory, isFree⟩
  | some node =>
      refine ⟨Node.setEntry plot.name node entries, ?_, by simp [Node.entry?_setEntry]⟩
      exact Node.get?_put_front isDirectory node [plot.name]

theorem exists_entries_apart (sub : Option Node) :
    ∃ entries, (plot.apart sub).get? [] = some (.directory entries) ∧ Node.entry? plot.name entries = sub := by
  cases sub with
  | none => exact ⟨[], rfl, rfl⟩
  | some node => exact ⟨[(plot.name, node)], rfl, by simp [Node.entry?]⟩

theorem get?_of_entries {files : FileSystem} {here : List String} {entries : List (String × Node)}
    (isDirectory : files.get? here = some (.directory entries)) (name : String) (names : List String) :
    files.get? (here ++ name :: names) = (Node.entry? name entries).bind (·.get? names) := by
  unfold get? at *
  rw [Node.get?_append, isDirectory, Option.bind_some, Node.get?_cons]

/-- What is below the place is the same in both trees. -/
theorem get?_grown (sub : Option Node) (names : List String) :
    (plot.grown sub).get? (plot.directory ++ plot.name :: names) = (plot.apart sub).get? (plot.name :: names) := by
  obtain ⟨entries, isDirectory, entered⟩ := plot.exists_entries_grown sub
  obtain ⟨alone, isRoot, enteredApart⟩ := plot.exists_entries_apart sub
  have apart := get?_of_entries isRoot plot.name names
  rw [List.nil_append] at apart
  rw [get?_of_entries isDirectory, apart, entered, enteredApart]

theorem face?_grown_inside (sub : Option Node) (names : List String) :
    (plot.grown sub).face? (plot.directory ++ plot.name :: names) = (plot.apart sub).face? (plot.name :: names) := by
  rw [face?_eq_map, face?_eq_map, get?_grown]

theorem face?_grown_outside (sub : Option Node) {names : List String} (outside : ¬ plot.place <+: names) :
    (plot.grown sub).face? names = plot.files.face? names := by
  cases sub with
  | none => rfl
  | some node => exact Node.face?_put_outside node plot.files.root outside

theorem face?_place : plot.files.face? plot.place = none := by
  obtain ⟨entries, isDirectory, isFree⟩ := plot.free
  rw [face?_eq_map, place, get?_of_entries isDirectory, isFree]
  rfl

theorem face?_inside_free {names : List String} (inside : plot.place <+: names) : plot.files.face? names = none := by
  obtain ⟨rest, rfl⟩ := inside
  cases rest with
  | nil => rw [List.append_nil, face?_place]
  | cons next rest => exact Node.face?_inside next rest (.inl face?_place)

theorem extends_grown (sub : Option Node) : plot.files.Extends (plot.grown sub) := by
  refine ⟨working_grown sub, closed_grown sub, fun names face found => ?_⟩
  have outside : ¬ plot.place <+: names := fun inside => by
    rw [face?_inside_free inside] at found
    contradiction
  rw [face?_grown_outside sub outside, found]

/-- Where two things look alike, so do the trees to which they have come. -/
theorem face?_grown_congr {sub other : Option Node} (same : ∀ names, (plot.apart sub).face? names = (plot.apart other).face? names)
    (names : List String) : (plot.grown sub).face? names = (plot.grown other).face? names := by
  by_cases inside : plot.place <+: names
  · obtain ⟨rest, rfl⟩ := inside
    rw [place, List.append_assoc, List.singleton_append, face?_grown_inside, face?_grown_inside, same]
  · rw [face?_grown_outside _ inside, face?_grown_outside _ inside]

/-- Putting something at the place, or below it where something is, is the same in both trees. -/
theorem put_grown (sub : Option Node) (node : Node) {names : List String} (ready : names = [] ∨ sub ≠ none) :
    ∃ after, (plot.grown sub).put (plot.directory ++ plot.name :: names) node = plot.grown (some after) ∧
      (plot.apart sub).put (plot.name :: names) node = plot.apart (some after) := by
  cases sub with
  | none =>
      obtain rfl := ready.resolve_right (by simp)
      exact ⟨node, rfl, rfl⟩
  | some old =>
      obtain ⟨entries, isDirectory, -⟩ := plot.free
      refine ⟨node.put old names, ?_, ?_⟩
      · exact congrArg (FileSystem.mk · plot.files.working plot.files.closed) (Node.put_put isDirectory old node plot.name names)
      · have entered : Node.entry? plot.name [(plot.name, old)] = some old := by simp [Node.entry?]
        have alone : Node.setEntry plot.name (node.put old names) [(plot.name, old)] =
            [(plot.name, node.put old names)] := by simp [Node.setEntry]
        exact congrArg (FileSystem.mk · [] []) ((Node.put_of_entry entered node names).trans (congrArg Node.directory alone))

end Plot

end FileSystem

end Companion
