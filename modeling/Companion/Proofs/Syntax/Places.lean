import Companion.Syntax.Lexer

/-!
What a text divides into does not depend on where the text stands: in front of it can be other trees, and groups that
are still open. Trees are compared up to their places.
-/

set_option autoImplicit false

namespace Companion.Syntax

namespace Tree

mutual

def unplaced : Tree → Tree
  | word text _ => word text .start
  | sign char joint _ => sign char joint .start
  | lifetime name _ => lifetime name .start
  | literal text _ => literal text .start
  | group delimiter body _ _ => group delimiter (allUnplaced body) .start .start

def allUnplaced : List Tree → List Tree
  | [] => []
  | tree :: trees => unplaced tree :: allUnplaced trees

end

theorem allUnplaced_eq_map (trees : List Tree) : allUnplaced trees = trees.map unplaced := by
  induction trees with
  | nil => rfl
  | cons tree trees ih => simp [allUnplaced, ih]

@[simp] theorem allUnplaced_append (trees others : List Tree) :
    allUnplaced (trees ++ others) = allUnplaced trees ++ allUnplaced others := by
  simp [allUnplaced_eq_map]

@[simp] theorem allUnplaced_reverse (trees : List Tree) : allUnplaced trees.reverse = (allUnplaced trees).reverse := by
  simp [allUnplaced_eq_map]

end Tree

open Companion.Syntax.Tree (unplaced allUnplaced)

theorem docAttribute_unplaced (text : List Char) (isInner : Bool) (place other : Position) :
    allUnplaced (docAttribute text isInner place) = allUnplaced (docAttribute text isInner other) := by
  cases isInner <;> simp [docAttribute, allUnplaced, unplaced]

theorem leaf_unplaced (text : List Char) (place other : Position) :
    (leaf text place).map (Prod.map id unplaced) = (leaf text other).map (Prod.map id unplaced) := by
  unfold leaf
  split
  · rfl
  · split
    · split
      · split <;> rfl
      · rfl
    · split
      · rfl
      · simp [Function.comp_def, unplaced]
    · rfl

theorem exists_leaf {text : List Char} {place : Position} {length : Nat} {tree : Tree}
    (found : leaf text place = some (length, tree)) (other : Position) :
    ∃ same, leaf text other = some (length, same) ∧ unplaced same = unplaced tree := by
  have alike := leaf_unplaced text other place
  rw [found] at alike
  obtain ⟨⟨end_, same⟩, isLeaf, isSame⟩ := Option.map_eq_some_iff.mp alike
  obtain ⟨sameLength, sameTree⟩ := Prod.mk.inj isSame
  obtain rfl : end_ = length := sameLength
  exact ⟨same, isLeaf, sameTree⟩

/-- What the lexer has found, in open groups, is what it would have found behind further trees, up to places. The
trees stand at the bottom: in front of what is found, or of what stands before the outermost group. -/
inductive Behind (front : List Tree) : List OpenGroup → List Tree → List OpenGroup → List Tree → Prop
  | bottom {found alike also : List Tree} (split : also = alike ++ front)
      (same : allUnplaced alike = allUnplaced found) : Behind front [] found [] also
  | inner {group other : OpenGroup} {outer others : List OpenGroup} {found also : List Tree}
      (same : allUnplaced also = allUnplaced found) (delimiter : other.delimiter = group.delimiter)
      (rest : Behind front outer group.before others other.before) :
      Behind front (group :: outer) found (other :: others) also

theorem Behind.add {front found also added alike : List Tree} {groups others : List OpenGroup}
    (behind : Behind front groups found others also) (same : allUnplaced alike = allUnplaced added) :
    Behind front groups (added ++ found) others (alike ++ also) := by
  cases behind with
  | bottom split sameFound => exact .bottom (by rw [split, ← List.append_assoc]) (by simp [same, sameFound])
  | inner sameFound delimiter rest => exact .inner (by simp [same, sameFound]) delimiter rest

theorem Behind.push {front found also : List Tree} {groups others : List OpenGroup} {tree alike : Tree}
    (behind : Behind front groups found others also) (same : unplaced alike = unplaced tree) :
    Behind front groups (tree :: found) others (alike :: also) := by
  have added : allUnplaced [alike] = allUnplaced [tree] := by simp [allUnplaced, same]
  exact behind.add added

/-- A text that divides into trees divides into the same trees, up to their places, also behind other trees, at any place
and with any fuel that is not less. -/
theorem scan_behind {front : List Tree} {fuel more : Nat} (enough : fuel ≤ more) {text : List Char}
    {place other : Position} {groups others : List OpenGroup} {found also trees : List Tree}
    (behind : Behind front groups found others also) (scanned : scan fuel text place groups found = .ok trees) :
    ∃ same, scan more text other others also = .ok (front.reverse ++ same) ∧
      allUnplaced same = allUnplaced trees := by
  induction fuel generalizing more text place other groups others found also with
  | zero => simp [scan] at scanned
  | succ fuel ih =>
      obtain ⟨more, rfl⟩ : ∃ fewer, more = fewer + 1 := ⟨more - 1, by omega⟩
      have enough : fuel ≤ more := by omega
      unfold scan at scanned ⊢
      cases trivia : Lexeme.trivia text with
      | some length =>
          simp only [trivia] at scanned ⊢
          exact ih enough behind scanned
      | none =>
          cases documentation : Lexeme.documentation text with
          | some comment =>
              simp only [trivia, documentation] at scanned ⊢
              refine ih enough (behind.add ?_) scanned
              rw [Tree.allUnplaced_reverse, Tree.allUnplaced_reverse, docAttribute_unplaced]
          | none =>
              simp only [trivia, documentation] at scanned ⊢
              cases text with
              | nil =>
                  cases behind with
                  | @bottom _ alike _ split same =>
                      cases scanned
                      exact ⟨alike.reverse, by simp [split], by simp [same]⟩
                  | inner => simp at scanned
              | cons c rest =>
                  cases opening : Delimiter.ofOpening? c with
                  | some delimiter =>
                      simp only [opening] at scanned ⊢
                      have opened : Behind front (⟨delimiter, place, found⟩ :: groups) []
                          (⟨delimiter, other, also⟩ :: others) [] := .inner rfl rfl behind
                      exact ih enough opened scanned
                  | none =>
                      cases closing : Delimiter.ofClosing? c with
                      | some delimiter =>
                          simp only [opening, closing] at scanned ⊢
                          cases behind with
                          | bottom => simp at scanned
                          | inner same sameDelimiter outer =>
                              simp only [sameDelimiter] at scanned ⊢
                              split at scanned
                              · rename_i closes
                                subst closes
                                simp only [if_true]
                                exact ih enough (outer.push (by simp [unplaced, same])) scanned
                              · contradiction
                      | none =>
                          simp only [opening, closing] at scanned ⊢
                          split at scanned
                          · rename_i length tree isLeaf
                            obtain ⟨same, isSameLeaf, sameTree⟩ := exists_leaf isLeaf other
                            simp only [isSameLeaf]
                            exact ih enough (behind.push sameTree) scanned
                          · contradiction

def markerTrees : List Tree :=
  [.sign '#' false ⟨1, 1⟩, .group .bracket [.word "extract_field" ⟨1, 3⟩] ⟨1, 2⟩ ⟨1, 16⟩]

theorem scan_marker (fuel : Nat) (text : List Char) :
    scan (fuel + 4) ("#[extract_field]".toList ++ text) .start [] [] = scan fuel text ⟨1, 17⟩ [] markerTrees.reverse :=
  rfl

theorem treesFrom_marker (text : List Char) : treesFrom .start ("#[extract_field]".toList ++ text) =
    scan (text.length + 13) text ⟨1, 17⟩ [] markerTrees.reverse := by
  have chars : "#[extract_field]".toList ++ text = '#' :: ("[extract_field]".toList ++ text) := rfl
  have notMark : ('#' == byteOrderMark) = false := by decide
  have fuel : ('#' :: ("[extract_field]".toList ++ text)).length + 1 = text.length + 13 + 4 := by simp
  rw [← scan_marker, chars]
  unfold treesFrom
  simp only [notMark, Bool.false_eq_true, if_false, fuel]

/-- A byte order mark is no token where it does not stand at the front of a text. -/
theorem scan_byteOrderMark (fuel : Nat) (text : List Char) (place : Position) (groups : List OpenGroup)
    (found : List Tree) : scan fuel (byteOrderMark :: text) place groups found = .error place := by
  cases fuel with
  | zero => rfl
  | succ fuel =>
      have starts : Text.startsIdentifier byteOrderMark = false := by decide +kernel
      have noIdentifier : Lexeme.identifier (byteOrderMark :: text) = 0 := by simp [Lexeme.identifier, starts]
      have noRaw : Lexeme.rawIdentifier (byteOrderMark :: text) = none := by
        unfold Lexeme.rawIdentifier
        split
        · rename_i same
          cases same
        · simp [noIdentifier]
      have noWord : Lexeme.word (byteOrderMark :: text) = none := by simp [Lexeme.word, noRaw]
      have noLeaf : leaf (byteOrderMark :: text) place =
          (Lexeme.word (byteOrderMark :: text)).map fun length =>
            (length, .word (String.ofList ((byteOrderMark :: text).take length)) place) := rfl
      have trivia : Lexeme.trivia (byteOrderMark :: text) = none := rfl
      have documentation : Lexeme.documentation (byteOrderMark :: text) = none := rfl
      have opening : Delimiter.ofOpening? byteOrderMark = none := rfl
      have closing : Delimiter.ofClosing? byteOrderMark = none := rfl
      simp only [scan, trivia, documentation, opening, closing, noLeaf, noWord, Option.map_none]

/-- A text behind the marker divides into the marker and the trees of that text, up to their places. -/
theorem trees_marked {item : String} {trees whole : List Tree} (divided : Syntax.trees item = .ok trees)
    (read : treesFrom .start ("#[extract_field]" ++ item).toList = .ok whole) :
    ∃ others, whole = markerTrees ++ others ∧ allUnplaced others = allUnplaced trees := by
  have scanned := read
  rw [String.toList_append, treesFrom_marker] at scanned
  unfold Syntax.trees treesFrom at divided
  cases chars : item.toList with
  | nil =>
      rw [chars] at divided scanned
      cases divided
      have nothing : scan (([] : List Char).length + 13) [] ⟨1, 17⟩ [] markerTrees.reverse = .ok markerTrees := rfl
      rw [nothing] at scanned
      cases scanned
      exact ⟨[], by simp, rfl⟩
  | cons c rest =>
      rw [chars] at divided scanned
      simp only at divided
      split at divided
      · rename_i isMark
        obtain rfl : c = byteOrderMark := eq_of_beq isMark
        rw [scan_byteOrderMark] at scanned
        contradiction
      · have behind : Behind markerTrees.reverse [] [] [] markerTrees.reverse := .bottom rfl rfl
        have enough : (c :: rest).length + 1 ≤ (c :: rest).length + 13 := by omega
        obtain ⟨same, alike, sameTrees⟩ := scan_behind enough behind divided
        rw [alike] at scanned
        cases scanned
        exact ⟨same, by simp, sameTrees⟩

end Companion.Syntax
