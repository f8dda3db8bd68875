import Mathlib.Data.Bool.AllAny
import Companion.Proofs.Syntax.Shortening.Items
import Companion.Source.Index

/-!
The words of a text. Each word that the lexer finds is an identifier, or an identifier with the mark of a raw one in
front; parsers pass the words on as they find them, and so the names of structs and modules are identifiers.
-/

set_option autoImplicit false

namespace Companion.Syntax

def IsIdentifier (name : String) : Prop :=
  ∃ first rest, name.toList = first :: rest ∧ Text.startsIdentifier first = true ∧
    ∀ c ∈ rest, Text.continuesIdentifier c = true

def neverRaw : List String := ["_", "super", "self", "Self", "crate"]

def IsWord (word : String) : Prop :=
  IsIdentifier word ∨ ∃ name, IsIdentifier name ∧ name ∉ neverRaw ∧ word = "r#" ++ name

theorem IsIdentifier.chars {name : String} (isIdentifier : IsIdentifier name) {c : Char} (member : c ∈ name.toList) :
    Text.startsIdentifier c = true ∨ Text.continuesIdentifier c = true := by
  obtain ⟨first, rest, chars, starts, continues⟩ := isIdentifier
  rw [chars] at member
  obtain rfl | member := List.mem_cons.mp member
  · exact .inl starts
  · exact .inr (continues c member)

theorem IsIdentifier.not_mem {name : String} (isIdentifier : IsIdentifier name) {c : Char}
    (never : (Text.startsIdentifier c || Text.continuesIdentifier c) = false) : c ∉ name.toList := by
  intro member
  obtain starts | continues := isIdentifier.chars member
  · simp [starts] at never
  · simp [continues] at never

theorem IsIdentifier.ne_empty {name : String} (isIdentifier : IsIdentifier name) : name ≠ "" := by
  rintro rfl
  obtain ⟨first, rest, chars, -⟩ := isIdentifier
  simp at chars

instance (name : String) : Decidable (IsIdentifier name) :=
  match chars : name.toList with
  | [] => isFalse (by rintro ⟨first, rest, whole, -⟩; simp [chars] at whole)
  | first :: rest =>
      decidable_of_iff (Text.startsIdentifier first = true ∧ rest.all Text.continuesIdentifier = true) (by
        constructor
        · rintro ⟨starts, continues⟩
          exact ⟨first, rest, chars, starts, List.all_eq_true.mp continues⟩
        · rintro ⟨_, _, whole, starts, continues⟩
          cases chars.symm.trans whole
          exact ⟨starts, List.all_eq_true.mpr continues⟩)

theorem isIdentifier_doc : IsIdentifier "doc" := by decide

theorem IsWord.plainName {word : String} (isWord : IsWord word) : IsIdentifier (Index.plainName word) := by
  unfold Index.plainName
  obtain isIdentifier | ⟨name, isIdentifier, -, rfl⟩ := isWord
  · split
    · rename_i rest chars
      exact absurd (by simp [chars] : '#' ∈ word.toList) (isIdentifier.not_mem (by decide))
    · exact isIdentifier
  · have chars : ("r#" ++ name).toList = 'r' :: '#' :: name.toList := by simp
    simp only [chars]
    simpa using isIdentifier

theorem isIdentifier_take {text : List Char} (found : Lexeme.identifier text ≠ 0) :
    IsIdentifier (String.ofList (text.take (Lexeme.identifier text))) := by
  unfold Lexeme.identifier at found ⊢
  cases text with
  | nil => simp at found
  | cons first rest =>
      cases starts : Text.startsIdentifier first with
      | false => simp [starts] at found
      | true =>
          have front : rest.take (rest.takeWhile Text.continuesIdentifier).length =
              rest.takeWhile Text.continuesIdentifier :=
            (List.prefix_iff_eq_take.mp (List.takeWhile_prefix _)).symm
          refine ⟨first, rest.takeWhile Text.continuesIdentifier, by simp [starts, front], starts, ?_⟩
          exact List.all_eq_true.mp List.all_takeWhile

theorem isWord_of_rawIdentifier {text : List Char} {length : Nat} (found : Lexeme.rawIdentifier text = some length) :
    IsWord (String.ofList (text.take length)) := by
  unfold Lexeme.rawIdentifier at found
  split at found
  · rename_i rest
    simp only [beq_iff_eq] at found
    split at found
    · contradiction
    · rename_i nonempty
      split at found
      · contradiction
      · rename_i allowed
        obtain rfl := Option.some.inj found
        refine .inr ⟨_, isIdentifier_take nonempty, fun never => ?_, String.toList_injective ?_⟩
        · exact allowed (List.contains_iff_mem.mpr never)
        · simp
  · simp only [beq_iff_eq] at found
    split at found
    · contradiction
    · rename_i nonempty
      obtain rfl := Option.some.inj found
      exact .inl (isIdentifier_take nonempty)

theorem isWord_of_word {text : List Char} {length : Nat} (found : Lexeme.word text = some length) :
    IsWord (String.ofList (text.take length)) := by
  unfold Lexeme.word at found
  split at found
  · contradiction
  · exact isWord_of_rawIdentifier found

namespace Tree

mutual

def Worded : Tree → Prop
  | word text _ => IsWord text
  | group _ body _ _ => AllWorded body
  | sign .. | lifetime .. | literal .. => True

/-- Whether all words of several trees are words as a text may hold them. -/
def AllWorded : List Tree → Prop
  | [] => True
  | tree :: trees => Worded tree ∧ AllWorded trees

end

theorem allWorded_iff {trees : List Tree} : AllWorded trees ↔ ∀ tree ∈ trees, Worded tree := by
  induction trees with
  | nil => simp [AllWorded]
  | cons tree trees ih => simp [AllWorded, ih]

theorem AllWorded.append {trees others : List Tree} (worded : AllWorded trees) (othersWorded : AllWorded others) :
    AllWorded (trees ++ others) := by
  rw [allWorded_iff] at *
  intro tree member
  obtain member | member := List.mem_append.mp member
  · exact worded tree member
  · exact othersWorded tree member

theorem AllWorded.reverse {trees : List Tree} (worded : AllWorded trees) : AllWorded trees.reverse := by
  rw [allWorded_iff] at *
  intro tree member
  exact worded tree (List.mem_reverse.mp member)

theorem AllWorded.suffix {trees others : List Tree} (worded : AllWorded trees) (isSuffix : others <:+ trees) :
    AllWorded others := by
  rw [allWorded_iff] at *
  intro tree member
  exact worded tree (isSuffix.mem member)

end Tree

open Companion.Syntax.Tree (Worded AllWorded)

theorem allWorded_docAttribute (text : List Char) (isInner : Bool) (place : Position) :
    AllWorded (docAttribute text isInner place) := by
  have doc : IsWord "doc" := .inl isIdentifier_doc
  cases isInner <;> simp [docAttribute, AllWorded, Worded, doc]

theorem worded_leaf {text : List Char} {place : Position} {length : Nat} {tree : Tree}
    (found : leaf text place = some (length, tree)) : Worded tree := by
  unfold leaf at found
  split at found
  · cases found
    trivial
  · split at found
    · split at found
      · split at found
        · cases found
          trivial
        · cases found
          trivial
      · contradiction
    · split at found
      · cases found
        trivial
      · obtain ⟨length, isWord, same⟩ := Option.map_eq_some_iff.mp found
        cases same
        exact isWord_of_word isWord
    · contradiction

/-- The lexer finds only words. It keeps that what the open groups hold so far, and what the innermost holds, is worded. -/
theorem allWorded_scan {fuel : Nat} {text : List Char} {place : Position} {groups : List OpenGroup}
    {found trees : List Tree} (scanned : scan fuel text place groups found = .ok trees)
    (foundWorded : AllWorded found) (groupsWorded : ∀ group ∈ groups, AllWorded group.before) :
    AllWorded trees := by
  induction fuel generalizing text place groups found with
  | zero => simp [scan] at scanned
  | succ fuel ih =>
      unfold scan at scanned
      split at scanned
      · exact ih scanned foundWorded groupsWorded
      · split at scanned
        · exact ih scanned ((allWorded_docAttribute _ _ _).reverse.append foundWorded) groupsWorded
        · split at scanned
          · cases scanned
            exact foundWorded.reverse
          · contradiction
          · split at scanned
            · refine ih scanned trivial fun group member => ?_
              obtain rfl | member := List.mem_cons.mp member
              · exact foundWorded
              · exact groupsWorded group member
            · rename_i group _ _ _
              split at scanned
              · refine ih scanned ⟨foundWorded.reverse, groupsWorded group (by simp)⟩ fun other member => ?_
                exact groupsWorded other (List.mem_cons_of_mem _ member)
              · contradiction
            · contradiction
            · split at scanned
              · rename_i isLeaf
                exact ih scanned ⟨worded_leaf isLeaf, foundWorded⟩ groupsWorded
              · contradiction

theorem allWorded_treesFrom {place : Position} {text : List Char} {trees : List Tree}
    (read : treesFrom place text = .ok trees) : AllWorded trees := by
  have none : ∀ group ∈ ([] : List OpenGroup), AllWorded group.before := by simp
  unfold treesFrom at read
  split at read
  · split at read
    · exact allWorded_scan read trivial none
    · exact allWorded_scan read trivial none
  · cases read
    trivial

end Companion.Syntax
