import Companion.Proofs.Syntax.Kinds
import Companion.Source.Index

/-!
An item behind the marker. A text that begins with the marker is read as a file whose first item carries it; whether that
item is a struct is what the marker itself finds when it reads the text without it.
-/

set_option autoImplicit false

namespace Companion.Syntax

open Companion.Syntax.Parser
open Companion.Syntax.Tree (allUnplaced)

/-- What an item has in front of its name, unless it has no name. -/
def Item.head? : Item → Option ItemHead
  | record head .. | named head .. | implementation head .. | module head .. => some head
  | other => none

theorem ItemBody.head?_item {body : ItemBody} {outer : List Attribute} {place : Position} {head : ItemHead}
    (isHead : (body.item outer place).head? = some head) : outer <+: head.attributes := by
  cases body <;> cases isHead
  · exact List.prefix_refl _
  all_goals exact List.prefix_append _ _

def markerAttribute : Attribute := ⟨false, ["extract_field"], none⟩

theorem outerAttribute_marker (g : Grammar) (others : List Tree) :
    outerAttribute g (.ofTrees (markerTrees ++ others)) =
      .ok (markerAttribute, ⟨others, .start, none, ["[extract_field]", "#"]⟩) :=
  rfl

theorem outerAttributes_marker {g : Grammar} {after : Stream} {marks : List Attribute} {others : List Tree}
    (read : outerAttributes g (.ofTrees (markerTrees ++ others)) = .ok (marks, after)) :
    ∃ rest, marks = markerAttribute :: rest := by
  unfold outerAttributes itemsWhile itemsUntil collecting collectWithin at read
  obtain ⟨found, middle, step, read⟩ := bind_ok read
  obtain ⟨stops, _⟩ | ⟨_, taken⟩ := choose_ok step
  · contradiction
  · obtain ⟨mark, behind, isMark, ended⟩ := bind_ok taken
    rw [outerAttribute_marker] at isMark
    cases isMark
    cases ended
    obtain ⟨rest, _, _, ended⟩ := bind_ok read
    cases ended
    exact ⟨rest, rfl⟩

theorem innerAttributes_marker (g : Grammar) (others : List Tree) :
    innerAttributes g (.ofTrees (markerTrees ++ others)) = .ok ([], .ofTrees (markerTrees ++ others)) :=
  rfl

theorem fileItems_marker {g : Grammar} {after : Stream} {items : List Item} {others : List Tree}
    (read : fileItems g (.ofTrees (markerTrees ++ others)) = .ok (items, after)) :
    ∃ first rest last, items = first :: rest ∧ item g (.ofTrees (markerTrees ++ others)) = .ok (first, last) := by
  unfold fileItems at read
  obtain ⟨_, _, inner, read⟩ := bind_ok read
  rw [innerAttributes_marker] at inner
  cases inner
  unfold itemsUntil collecting collectWithin at read
  obtain ⟨found, middle, step, read⟩ := bind_ok read
  obtain ⟨atEnd, _⟩ | ⟨_, taken⟩ := choose_ok step
  · contradiction
  · obtain ⟨first, last, isItem, ended⟩ := bind_ok taken
    cases ended
    obtain ⟨rest, _, _, ended⟩ := bind_ok read
    cases ended
    exact ⟨first, rest, _, rfl, isItem⟩

/-- The marker at the front of a text is not taken for a line that names an interpreter. -/
theorem fileBody_marker (item : String) :
    fileBody ("#[extract_field]" ++ item).toList = ("#[extract_field]" ++ item).toList := by
  rw [String.toList_append]
  rfl

/-- The first item of a text behind the marker carries it, and is a struct exactly if the marker finds a struct. -/
theorem readFile_marker {item : String} {trees : List Tree} {found : Item} {spelling : List String}
    {items : List Item} (divided : Syntax.trees item = .ok trees) (read : readItem trees = .ok (found, spelling))
    (fileRead : readFile ("#[extract_field]" ++ item) = .ok items) :
    ∃ first rest, items = first :: rest ∧ Marker.isRecord first = Marker.isRecord found ∧
      ∀ head, first.head? = some head → markerAttribute ∈ head.attributes := by
  obtain ⟨whole, _, fileDivided, fileParsed⟩ := items_of_readFile fileRead
  rw [fileBody_marker] at fileDivided
  obtain ⟨others, rfl, same⟩ := trees_marked divided fileDivided
  obtain ⟨first, rest, last, rfl, isFirst⟩ := fileItems_marker fileParsed
  obtain ⟨_, isFound, -⟩ := parse_of_parseAll read
  refine ⟨first, rest, rfl, item_isRecord_congr isFirst isFound ?_, fun head isHead => ?_⟩
  · have attributes : behindAttributes (markerTrees ++ others) = behindAttributes others := rfl
    show allUnplaced (behindAttributes (markerTrees ++ others)) = allUnplaced (behindAttributes trees)
    rw [attributes, behindAttributes_unplaced, same, behindAttributes_unplaced]
  · obtain ⟨outer, marked, visible, shown, body, last, attributes, _, _, rfl⟩ := exists_of_item isFirst
    obtain ⟨others, rfl⟩ := outerAttributes_marker attributes
    exact (ItemBody.head?_item isHead).subset List.mem_cons_self

end Companion.Syntax
