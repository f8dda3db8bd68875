import Companion.Proofs.FileSystem.Sorted
import Companion.Proofs.FileSystem.Walk
import Companion.Proofs.Text.Octets

set_option autoImplicit false

namespace Companion

/-- Whether a list of names stands before another one: name by name, by the octets of the names. -/
def Precedes (names others : List String) : Prop :=
  List.Lex (· < ·) (names.map Text.octets) (others.map Text.octets)

theorem precedes_of_lex {names others : List String} (before : List.Lex (· < ·) names others) : Precedes names others := by
  induction before with
  | nil => exact .nil
  | cons _ ih => exact .cons ih
  | rel less => exact .rel (Text.lt_iff_octets_lt.mp less)

theorem Precedes.ne {names others : List String} (before : Precedes names others) : names ≠ others := by
  rintro rfl
  have apart : List.Lex (· ≠ ·) (names.map Text.octets) (names.map Text.octets) :=
    before.imp fun first second (less : first < second) (same : first = second) => List.lt_irrefl second (same ▸ less)
  exact apart.to_ne rfl

theorem Precedes.asymm {names others : List String} (before : Precedes names others) : ¬ Precedes others names :=
  fun behind => List.Lex.asymm _ |>.asymm _ _ before behind

namespace Node

variable {node : Node} {entries : List (String × Node)}

theorem exists_of_mem_stopsOf {names : List String} {face : Face} (member : (names, face) ∈ stopsOf entries) :
    ∃ name child inner, (name, child) ∈ entries ∧ names = name :: inner ∧ (inner, face) ∈ child.stops := by
  induction entries with
  | nil => simp [stopsOf] at member
  | cons first others ih =>
      obtain ⟨key, found⟩ := first
      unfold stopsOf at member
      obtain inFirst | inOthers := List.mem_append.mp member
      · obtain ⟨⟨inner, _⟩, isInside, same⟩ := List.mem_map.mp inFirst
        cases same
        exact ⟨key, found, inner, List.mem_cons_self, rfl, isInside⟩
      · obtain ⟨name, child, inner, isEntry, same, isInside⟩ := ih inOthers
        exact ⟨name, child, inner, List.mem_cons_of_mem _ isEntry, same, isInside⟩

theorem mem_stopsOf {name : String} {child : Node} {inner : List String} {face : Face}
    (isEntry : (name, child) ∈ entries) (isInside : (inner, face) ∈ child.stops) : (name :: inner, face) ∈ stopsOf entries := by
  obtain ⟨front, back, rfl⟩ := List.append_of_mem isEntry
  rw [stopsOf_append, stopsOf]
  exact List.mem_append_right _ (List.mem_append_left _ (List.mem_map.mpr ⟨_, isInside, rfl⟩))

theorem own_mem_stops (node : Node) : ([], node.face) ∈ node.stops := by
  cases node <;> simp [stops, face]

/-- Whatever stands in a tree is one of its stops. -/
theorem mem_stops_of_face? {names : List String} {face : Face} (found : node.face? names = some face) :
    (names, face) ∈ node.stops := by
  induction names generalizing node with
  | nil =>
      obtain rfl : node.face = face := by simpa using found
      exact node.own_mem_stops
  | cons name names ih =>
      obtain ⟨entries, child, rfl, entered, inside⟩ := exists_directory_of_face?_cons found
      rw [stops]
      exact List.mem_cons_of_mem _ (mem_stopsOf (mem_of_entry entered) (ih inside))

/-- The stops of a tree are all that stands in it. -/
theorem mem_stops_iff (sorted : node.IsSorted) {names : List String} {face : Face} :
    (names, face) ∈ node.stops ↔ node.face? names = some face :=
  ⟨face?_of_mem_stops sorted, mem_stops_of_face?⟩

mutual

/-- The stops of a tree are in the order of the names that lead to them. -/
theorem pairwise_stops {node : Node} (sorted : node.IsSorted) :
    node.stops.Pairwise fun first second => List.Lex (· < ·) first.1 second.1 := by
  cases node with
  | file content => simp [stops]
  | link target => simp [stops]
  | directory entries =>
      rw [stops, List.pairwise_cons]
      refine ⟨?_, pairwise_stopsOf (by simpa [IsSorted] using sorted)⟩
      -- The directory itself stands in front of what is in it: no names lead there.
      rintro ⟨names, face⟩ inside
      obtain ⟨name, child, inner, -, rfl, -⟩ := exists_of_mem_stopsOf inside
      exact .nil

theorem pairwise_stopsOf {entries : List (String × Node)} (sorted : AreSorted entries) :
    (stopsOf entries).Pairwise fun first second => List.Lex (· < ·) first.1 second.1 := by
  match entries with
  | [] => simp [stopsOf]
  | (name, node) :: others =>
      obtain ⟨before, isSorted, othersSorted⟩ := sorted
      rw [stopsOf, List.pairwise_append]
      refine ⟨?_, pairwise_stopsOf othersSorted, ?_⟩
      · exact List.pairwise_map.mpr ((pairwise_stops isSorted).imp .cons)
      · -- What is inside of an entry begins with its name, and the names of the others are greater.
        rintro first inNode ⟨names, face⟩ inOthers
        obtain ⟨found, -, rfl⟩ := List.mem_map.mp inNode
        obtain ⟨other, child, inner, isEntry, rfl, -⟩ := exists_of_mem_stopsOf inOthers
        exact .rel (before _ isEntry)

end

end Node

end Companion
