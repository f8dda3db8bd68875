import Companion.Proofs.FileSystem.Links
import Companion.Proofs.FileSystem.Sorted
import Companion.Proofs.FileSystem.Walk

/-!
The names that operations give. In a tree without links what is made is made under a step of its path; so if the entries of
such a tree have names that entries can have, those that come to it have such names, too.
-/

set_option autoImplicit false

namespace Companion

namespace Node

variable {root node new : Node} {entries : List (String × Node)} {name : String} {names : List String}

theorem named_of_mem {child : Node} (named : AreNamed entries) (member : (name, child) ∈ entries) :
    IsName name ∧ child.IsNamed := by
  induction entries with
  | nil => contradiction
  | cons found others ih =>
      obtain ⟨isName, isNamed, othersNamed⟩ := named
      obtain same | inOthers := List.mem_cons.mp member
      · cases same
        exact ⟨isName, isNamed⟩
      · exact ih othersNamed inOthers

/-- What leads on from a tree whose entries have names is a list of names. -/
theorem areNames_of_get? (named : root.IsNamed) (found : root.get? names = some node) : ∀ name ∈ names, IsName name := by
  induction names generalizing root with
  | nil => simp
  | cons name names ih =>
      cases root with
      | file content => contradiction
      | link target => contradiction
      | directory entries =>
          rw [get?_cons] at found
          obtain ⟨child, entered, inside⟩ := Option.bind_eq_some_iff.mp found
          have areNamed : AreNamed entries := by simpa [IsNamed] using named
          obtain ⟨isName, childNamed⟩ := named_of_mem areNamed (mem_of_entry entered)
          exact List.forall_mem_cons.mpr ⟨isName, ih childNamed inside⟩

theorem isNamed_file (content : ByteArray) : (file content).IsNamed := by
  simp [IsNamed]

theorem isNamed_emptyDirectory : emptyDirectory.IsNamed := by
  simp [emptyDirectory, IsNamed, AreNamed]

theorem AreNamed.setEntry (named : AreNamed entries) (isName : IsName name) (isNamed : new.IsNamed) :
    AreNamed (setEntry name new entries) := by
  induction entries with
  | nil => simpa [Node.setEntry, AreNamed] using ⟨isName, isNamed⟩
  | cons found others ih =>
      obtain ⟨firstName, firstNamed, othersNamed⟩ := named
      unfold Node.setEntry
      split
      · exact ⟨firstName, isNamed, othersNamed⟩
      · split
        · exact ⟨isName, isNamed, firstName, firstNamed, othersNamed⟩
        · exact ⟨firstName, firstNamed, ih othersNamed⟩

theorem IsNamed.put (named : root.IsNamed) (newNamed : new.IsNamed) (areNames : ∀ name ∈ names, IsName name) :
    (Node.put new root names).IsNamed := by
  induction names generalizing root with
  | nil => simpa [Node.put] using newNamed
  | cons name names ih =>
      obtain ⟨isName, othersAreNames⟩ := List.forall_mem_cons.mp areNames
      cases root with
      | file content => simp [Node.put, IsNamed]
      | link target => simp [Node.put, IsNamed]
      | directory entries =>
          have areNamed : AreNamed entries := by simpa [IsNamed] using named
          cases names with
          | nil =>
              rw [Node.put, IsNamed]
              exact areNamed.setEntry isName newNamed
          | cons next names =>
              unfold Node.put
              split
              · rename_i child entered
                have childNamed := (named_of_mem areNamed (mem_of_entry entered)).2
                rw [IsNamed]
                exact areNamed.setEntry isName (ih childNamed othersAreNames)
              · exact named

end Node

namespace FileSystem

variable {files after : FileSystem} {path : FilePath} {names : List String}

/-- A step of a path that goes down is the name of an entry. -/
theorem isName_of_step (admissible : Admissible path) {name : String} (isStep : name ∈ stepsOf path.text)
    (notCurrent : name ≠ ".") (notParent : name ≠ "..") : IsName name := by
  obtain ⟨isPiece, nonempty⟩ := List.mem_filter.mp isStep
  refine ⟨by simpa using nonempty, notCurrent, notParent, FilePath.slashFree_of_mem_pieces isPiece, fun inside => ?_⟩
  exact admissible.null ((path.mem_text_iff (by decide)).mpr ⟨name, isStep, inside⟩)

/-- A free name that a walk comes to is its last step, in a directory. -/
theorem exists_step_of_free {purpose : Purpose} {asksDirectory : Bool} {here steps : List String}
    (walked : files.descend purpose asksDirectory here steps = .ok (.arrived (.free names))) :
    ∃ front name, names = front ++ [name] ∧ files.face? front = some .directory ∧ name ∈ steps ∧ name ≠ "." ∧ name ≠ ".." := by
  induction steps generalizing here with
  | nil =>
      unfold descend at walked
      split at walked
      · cases eq_of_arrive walked
      · contradiction
  | cons step steps ih =>
      obtain ⟨isDirectory, -, taken⟩ := takes_of_descend walked
      cases taken with
      | goesOn _ walkedOn =>
          obtain ⟨front, name, split, isFront, member, isDown⟩ := ih walkedOn
          exact ⟨front, name, split, isFront, List.mem_cons_of_mem _ member, isDown⟩
      | free _ notCurrent notParent _ _ =>
          exact ⟨here, step, rfl, isDirectory, List.mem_cons_self, notCurrent, notParent⟩

/-- Whether a tree has no links, and its entries have names that entries can have. -/
structure IsOrdinary (files : FileSystem) : Prop where
  linkFree : files.LinkFree
  named : files.root.IsNamed

namespace IsOrdinary

theorem empty : FileSystem.empty.IsOrdinary :=
  ⟨linkFree_empty, Node.isNamed_emptyDirectory⟩

variable (ordinary : files.IsOrdinary)
include ordinary

theorem areNames_of_face? {face : Node.Face} (found : files.face? names = some face) : ∀ name ∈ names, IsName name := by
  rw [face?_eq_map] at found
  obtain ⟨node, there, -⟩ := Option.map_eq_some_iff.mp found
  exact Node.areNames_of_get? ordinary.named there

theorem areNames_of_free {purpose : Purpose} (resolved : files.resolve purpose path = .ok (.free names)) :
    ∀ name ∈ names, IsName name := by
  obtain ⟨admissible, walked⟩ := descend_of_resolve ordinary.linkFree resolved
  obtain ⟨front, name, rfl, isFront, isStep, notCurrent, notParent⟩ := exists_step_of_free walked
  exact List.forall_mem_append.mpr ⟨ordinary.areNames_of_face? isFront,
    List.forall_mem_singleton.mpr (isName_of_step admissible isStep notCurrent notParent)⟩

theorem makeDirectory (made : files.makeDirectory path = .ok after) : after.IsOrdinary := by
  refine ⟨(makeDirectory_changes ordinary.linkFree made).linkFree ordinary.linkFree, ?_⟩
  unfold FileSystem.makeDirectory at made
  split at made
  · contradiction
  · contradiction
  · rename_i names resolved
    cases made
    exact ordinary.named.put Node.isNamed_emptyDirectory (ordinary.areNames_of_free resolved)

theorem write {text : String} (wrote : files.write path text = .ok after) : after.IsOrdinary := by
  refine ⟨(write_changes ordinary.linkFree wrote).1.linkFree ordinary.linkFree, ?_⟩
  unfold FileSystem.write target at wrote
  cases resolved : files.resolve .creation path with
  | error reason => simp [resolved] at wrote
  | ok place =>
      rw [resolved] at wrote
      cases place with
      | free names =>
          cases wrote
          exact ordinary.named.put (Node.isNamed_file _) (ordinary.areNames_of_free resolved)
      | taken names node =>
          cases node with
          | link target => contradiction
          | directory entries => contradiction
          | file content =>
              cases wrote
              have found := (endsAt_of_resolve ordinary.linkFree resolved).2.2
              exact ordinary.named.put (Node.isNamed_file _) (Node.areNames_of_get? ordinary.named found)

end IsOrdinary

end FileSystem

end Companion
