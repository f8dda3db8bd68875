import Companion.FileSystem

/-!
A tree looked at place by place. The *face* of a node is what can be seen of it without going inside; the faces of all
places are the view through which the operations on trees are described. Putting a file or an empty directory at a place
changes the face of that place and of no other.
-/

set_option autoImplicit false

namespace Companion

namespace Node

def face? (node : Node) (names : List String) : Option Face :=
  (node.get? names).map face

theorem entry?_setEntry (name other : String) (node : Node) (entries : List (String × Node)) :
    entry? other (setEntry name node entries) = if other = name then some node else entry? other entries := by
  induction entries with
  | nil =>
      simp only [setEntry, entry?]
      by_cases same : other = name
      · simp [same]
      · simp [same, Ne.symm same]
  | cons found others ih =>
      obtain ⟨key, old⟩ := found
      simp only [setEntry]
      split
      · rename_i isKey
        subst isKey
        by_cases same : other = key
        · simp [Node.entry?, same]
        · simp [Node.entry?, same, Ne.symm same]
      · split
        · by_cases same : other = name
          · simp [Node.entry?, same]
          · simp [Node.entry?, same, Ne.symm same]
        · rename_i notKey _
          by_cases isKey : key = other
          · subst isKey
            simp [Node.entry?, notKey]
          · simp [Node.entry?, isKey, ih]

@[simp] theorem get?_nil (node : Node) : node.get? [] = some node := by
  cases node <;> rfl

theorem get?_cons (entries : List (String × Node)) (name : String) (names : List String) :
    (directory entries).get? (name :: names) = (Node.entry? name entries).bind (·.get? names) := by
  cases found : entry? name entries <;> simp [get?, found]

theorem get?_append (node : Node) (names others : List String) :
    node.get? (names ++ others) = (node.get? names).bind (·.get? others) := by
  induction names generalizing node with
  | nil => simp
  | cons name names ih =>
      cases node with
      | file content => rfl
      | link target => rfl
      | directory entries =>
          rw [List.cons_append, get?_cons, get?_cons]
          cases entry? name entries with
          | none => rfl
          | some child => exact ih child

@[simp] theorem face?_nil (node : Node) : node.face? [] = some node.face := by
  simp [face?]

theorem face?_directory_cons (entries : List (String × Node)) (name : String) (names : List String) :
    (directory entries).face? (name :: names) = (Node.entry? name entries).bind (·.face? names) := by
  unfold face?
  rw [get?_cons]
  cases entry? name entries <;> rfl

theorem exists_directory_of_face?_cons {node : Node} {name : String} {names : List String} {face : Face}
    (found : node.face? (name :: names) = some face) :
    ∃ entries child, node = directory entries ∧ entry? name entries = some child ∧ child.face? names = some face := by
  cases node with
  | file content => simp [face?, get?] at found
  | link target => simp [face?, get?] at found
  | directory entries =>
      rw [face?_directory_cons] at found
      cases entered : entry? name entries with
      | none => simp [entered] at found
      | some child => exact ⟨entries, child, rfl, entered, by simpa [entered] using found⟩

theorem exists_directory_of_face?_nil {node : Node} (isDirectory : node.face? [] = some .directory) :
    ∃ entries, node = directory entries := by
  cases node with
  | file content => simp [face] at isDirectory
  | link target => simp [face] at isDirectory
  | directory entries => exact ⟨entries, rfl⟩

theorem get?_of_face?_file {node : Node} {names : List String} {content : ByteArray}
    (isFile : node.face? names = some (.file content)) : node.get? names = some (file content) := by
  obtain ⟨found, isThere, face⟩ := Option.map_eq_some_iff.mp isFile
  cases found with
  | file other =>
      obtain rfl : other = content := by simpa [Node.face] using face
      exact isThere
  | link target => cases face
  | directory entries => cases face

theorem exists_directory_of_face? {node : Node} {names : List String}
    (isDirectory : node.face? names = some .directory) : ∃ entries, node.get? names = some (directory entries) := by
  obtain ⟨found, isThere, face⟩ := Option.map_eq_some_iff.mp isDirectory
  cases found with
  | file content => cases face
  | link target => cases face
  | directory entries => exact ⟨entries, isThere⟩

def IsLeaf (node : Node) : Prop :=
  ∀ name names, node.get? (name :: names) = none

theorem isLeaf_file (content : ByteArray) : (file content).IsLeaf := fun _ _ => rfl

theorem isLeaf_emptyDirectory : emptyDirectory.IsLeaf := fun _ _ => rfl

/-- Whether a file or a directory can be put at a place: it stands in a directory, and there is nothing at it, or a
file. -/
structure Fits (root : Node) (names : List String) : Prop where
  parent : names ≠ [] → root.face? names.dropLast = some .directory
  bare : root.face? names = none ∨ ∃ content, root.face? names = some (.file content)

/-- Below a place at which there is nothing, or a file, there is nothing. -/
theorem face?_inside {root : Node} {names : List String} (name : String) (rest : List String)
    (bare : root.face? names = none ∨ ∃ content, root.face? names = some (.file content)) :
    root.face? (names ++ name :: rest) = none := by
  unfold face? at bare ⊢
  rw [get?_append]
  cases found : root.get? names with
  | none => rfl
  | some node =>
      cases node with
      | file content => rfl
      | link target => simp [found, face] at bare
      | directory entries => simp [found, face] at bare

/-- Putting a leaf at a place changes the face of that place and of no other. -/
theorem face?_put {root new : Node} {names : List String} (leaf : new.IsLeaf) (fits : root.Fits names)
    (other : List String) :
    (new.put root names).face? other = if other = names then some new.face else root.face? other := by
  have newInside : ∀ name rest, new.face? (name :: rest) = none := fun name rest => by
    simp [face?, leaf name rest]
  induction names generalizing root other with
  | nil =>
      cases other with
      | nil => cases root <;> simp [put]
      | cons name rest =>
          have outside : root.face? (name :: rest) = none := face?_inside name rest fits.bare
          cases root <;> simp [put, newInside, outside]
  | cons name names ih =>
      cases names with
      | nil =>
          obtain ⟨entries, rfl⟩ := exists_directory_of_face?_nil (fits.parent (by simp))
          cases other with
          | nil => simp [put, face]
          | cons first rest =>
              simp only [put, face?_directory_cons, entry?_setEntry]
              by_cases same : first = name
              · subst same
                cases rest with
                | nil => simp
                | cons next rest =>
                    have outside := face?_inside next rest fits.bare
                    rw [List.singleton_append, face?_directory_cons] at outside
                    simp [newInside, outside]
              · simp [same]
      | cons next names =>
          obtain ⟨entries, child, rfl, entered, isDirectory⟩ :=
            exists_directory_of_face?_cons (fits.parent (by simp))
          have childFits : child.Fits (next :: names) :=
            ⟨fun _ => isDirectory, by simpa [face?_directory_cons, entered] using fits.bare⟩
          simp only [put, entered]
          cases other with
          | nil => simp [face]
          | cons first rest =>
              simp only [face?_directory_cons, entry?_setEntry]
              by_cases same : first = name
              · subst same
                simp [entered, ih childFits rest]
              · simp [same]

/-- Whether there is no symbolic link in what stands below. -/
def LinkFree (node : Node) : Prop :=
  ∀ names target, node.face? names ≠ some (.link target)

theorem linkFree_file (content : ByteArray) : (file content).LinkFree := by
  intro names target
  cases names <;> simp [face?, face, get?]

theorem linkFree_directory {entries : List (String × Node)} (free : ∀ child ∈ entries, child.2.LinkFree) :
    (directory entries).LinkFree := by
  intro names target
  cases names with
  | nil => simp [face]
  | cons name names =>
      rw [face?_directory_cons]
      induction entries with
      | nil => simp [Node.entry?]
      | cons first others ih =>
          obtain ⟨firstFree, othersFree⟩ := List.forall_mem_cons.mp free
          by_cases same : first.1 = name
          · simpa [Node.entry?, same] using firstFree names target
          · simpa [Node.entry?, same] using ih othersFree

end Node

namespace FileSystem

def face? (files : FileSystem) (names : List String) : Option Node.Face :=
  files.root.face? names

theorem face?_eq_map (files : FileSystem) (names : List String) :
    files.face? names = (files.get? names).map Node.face := rfl

@[simp] theorem put_working (files : FileSystem) (names : List String) (node : Node) :
    (files.put names node).working = files.working := rfl

theorem face?_put {files : FileSystem} {names : List String} {node : Node} (leaf : node.IsLeaf)
    (fits : files.root.Fits names) (other : List String) :
    (files.put names node).face? other = if other = names then some node.face else files.face? other :=
  Node.face?_put leaf fits other

def LinkFree (files : FileSystem) : Prop :=
  ∀ names target, files.face? names ≠ some (.link target)

theorem linkFree_empty : empty.LinkFree :=
  Node.linkFree_directory (by simp)

end FileSystem

end Companion
