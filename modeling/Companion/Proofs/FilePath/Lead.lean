import Companion.Proofs.FilePath.Parent

/-!
A text in front of a path. Where it is empty or ends in a slash, the pieces of the path are left as they are: what is
joined to the path, and the parents of the path, are the same behind any such text.
-/

set_option autoImplicit false

namespace Companion

open FileSystem (stepsOf)

/-- Whether a text in front of a path leaves the pieces of the path as they are. -/
def FilePath.IsLead (lead : String) : Prop :=
  lead = "" ∨ ∃ path : String, lead = path ++ ("/" ++ "")

namespace FilePath

variable {lead text : String}

/-- The pieces that a text puts in front of those of a path. -/
theorem IsLead.exists_pieces (isLead : IsLead lead) :
    ∃ outer, (∀ text, (FilePath.mk (lead ++ text)).pieces = outer ++ (FilePath.mk text).pieces) ∧
      ∀ pieces, pieces ≠ [] → String.intercalate "/" (outer ++ pieces) = lead ++ String.intercalate "/" pieces := by
  obtain rfl | ⟨path, rfl⟩ := isLead
  · exact ⟨[], fun text => by simp, fun pieces _ => by simp⟩
  · refine ⟨(FilePath.mk path).pieces, fun text => ?_, fun pieces some => ?_⟩
    · rw [String.append_assoc, String.append_assoc, String.empty_append, pieces_append_slash]
    · rw [Text.intercalate_append "/" (pieces_ne_nil _) some, intercalate_pieces]
      simp [String.append_assoc]

theorem IsLead.steps (isLead : IsLead lead) (text : String) : stepsOf (lead ++ text) = stepsOf lead ++ stepsOf text := by
  obtain rfl | ⟨path, rfl⟩ := isLead
  · simp
  · rw [String.append_assoc, String.append_assoc, String.empty_append, steps_append_slash, steps_append_slash]
    simp

theorem IsLead.isAbsolute (isLead : IsLead lead) (relative : (FilePath.mk text).isAbsolute = false) :
    (FilePath.mk (lead ++ text)).isAbsolute = (FilePath.mk lead).isAbsolute := by
  obtain rfl | ⟨path, rfl⟩ := isLead
  · simp only [String.empty_append, relative]
    rfl
  · unfold FilePath.isAbsolute
    cases chars : path.toList <;> simp [chars]

theorem join_lead (lead : String) {below : String} (nonempty : text ≠ "") (relative : (FilePath.mk below).isAbsolute = false) :
    (FilePath.mk (lead ++ text)).join below = ⟨lead ++ ((FilePath.mk text).join below).text⟩ := by
  rw [join_eq _ relative, join_eq _ relative, gap_append lead nonempty]
  simp [String.append_assoc]

theorem asksForDirectory_lead (lead : String) (nonempty : text ≠ "") :
    FileSystem.asksForDirectory (lead ++ text) = FileSystem.asksForDirectory text := by
  have someChars : text.toList ≠ [] := fun empty => nonempty (String.toList_eq_nil_iff.mp empty)
  obtain ⟨c, ends⟩ := Option.ne_none_iff_exists'.mp (mt List.getLast?_eq_none_iff.mp someChars)
  simp only [FileSystem.asksForDirectory, String.toList_append, List.getLast?_append, ends, Option.some_or]

/-- Whether a piece counts for nothing wherever it stands behind another. -/
def isIdle (piece : String) : Bool :=
  piece == "" || piece == "."

/-- Pieces that count for nothing are dropped up to one that counts. -/
theorem dropIdle_append (absolute : Bool) (backwards before : List String) {name : String} (counts : isIdle name = false) :
    dropIdle absolute (backwards ++ name :: before) = backwards.dropWhile isIdle ++ name :: before := by
  induction backwards with
  | nil =>
      have notIdle : idle absolute before.length name = false := by
        simp only [isIdle, Bool.or_eq_false_iff] at counts
        simp [idle, counts.1, counts.2]
      rw [List.nil_append, dropIdle, notIdle]
      rfl
  | cons piece others ih =>
      have same : idle absolute (others ++ name :: before).length piece = isIdle piece := by
        have behind : ((others ++ name :: before).length != 0) = true := by simp
        rw [idle, behind, Bool.or_true, Bool.and_true, isIdle]
      rw [List.cons_append, dropIdle, same, List.dropWhile_cons, ih]
      split <;> rfl

/-- Behind any text a path has the same parent, as long as the piece stays with which the path begins. -/
theorem parent?_lead (isLead : IsLead lead) {name : String} {others : List String} {parent : FilePath}
    (pieces : (FilePath.mk text).pieces = name :: others) (counts : isIdle name = false)
    (isParent : (FilePath.mk text).parent? = some parent) (nonempty : parent.text ≠ "") :
    (FilePath.mk (lead ++ text)).parent? = some ⟨lead ++ parent.text⟩ ∧
      ∃ kept, kept <+: others ∧ parent.pieces = name :: kept := by
  obtain ⟨outer, piecesBehind, joined⟩ := isLead.exists_pieces
  have backwards : (FilePath.mk (lead ++ text)).pieces.reverse = others.reverse ++ name :: outer.reverse := by
    simp [piecesBehind, pieces]
  have alone : (FilePath.mk text).pieces.reverse = others.reverse ++ name :: [] := by simp [pieces]
  unfold parent? at isParent ⊢
  rw [alone, dropIdle_append _ _ _ counts] at isParent
  rw [backwards, dropIdle_append _ _ _ counts]
  cases kept : others.reverse.dropWhile isIdle with
  | nil =>
      -- Only the first piece counts, so its parent is empty.
      have nothing : parent = empty := by
        have front := isParent
        simp only [kept, List.nil_append, dropIdle] at front
        have relative : (FilePath.mk text).isAbsolute = false := by
          rw [Bool.eq_false_iff, ne_eq, isAbsolute_iff, pieces]
          rintro ⟨_, -, same⟩
          rw [(List.cons.inj same).1] at counts
          exact absurd counts (by decide)
        simpa [relative] using front.symm
      exact absurd (congrArg FilePath.text nothing) nonempty
  | cons last before =>
      have isFront : (before.dropWhile isIdle).reverse <+: others := by
        obtain ⟨dropped, whole⟩ := List.dropWhile_suffix (l := others.reverse) isIdle
        obtain ⟨inner, rest⟩ := List.dropWhile_suffix (l := before) isIdle
        rw [kept, ← rest] at whole
        have forwards := congrArg List.reverse whole
        exact ⟨inner.reverse ++ last :: dropped.reverse, by simpa using forwards⟩
      simp only [kept, List.cons_append, dropIdle_append _ _ _ counts] at isParent ⊢
      generalize before.dropWhile isIdle = inner at isFront isParent ⊢
      have here : parent = ⟨String.intercalate "/" (name :: inner.reverse)⟩ := by
        cases inner <;> simpa using isParent.symm
      have behind : some (FilePath.mk (String.intercalate "/" (outer ++ name :: inner.reverse))) =
          some ⟨lead ++ parent.text⟩ := by
        rw [joined _ (by simp), here]
      refine ⟨?_, inner.reverse, isFront, ?_⟩
      · rw [← behind]
        cases inner <;> simp
      · rw [here]
        refine pieces_intercalate (by simp) fun piece member => ?_
        have isPiece : piece ∈ (FilePath.mk text).pieces := by
          rw [pieces]
          exact ((List.prefix_cons_inj name).mpr isFront).subset member
        exact slashFree_of_mem_pieces isPiece

theorem exists_lead {path : FilePath} {front others : List String} {name : String}
    (steps : stepsOf path.text = front ++ name :: others) :
    ∃ lead text pieces, path.text = lead ++ text ∧ IsLead lead ∧ stepsOf lead = front ∧
      (FilePath.mk text).pieces = name :: pieces ∧ pieces.filter (· ≠ "") = others := by
  obtain ⟨outer, rest, whole, isFront, behind⟩ := List.filter_eq_append_iff.mp steps
  obtain ⟨inner, pieces, rfl, inner_empty, -, isRest⟩ := List.filter_eq_cons_iff.mp behind
  rw [← List.append_assoc] at whole
  have front_eq : (outer ++ inner).filter (· ≠ "") = front := by
    rw [List.filter_append, isFront, List.filter_eq_nil_iff.mpr inner_empty, List.append_nil]
  have piecesText : (FilePath.mk (String.intercalate "/" (name :: pieces))).pieces = name :: pieces :=
    pieces_intercalate (by simp) fun piece member =>
      have isPiece : piece ∈ path.pieces := whole ▸ List.mem_append_right _ member
      slashFree_of_mem_pieces isPiece
  have text := path.intercalate_pieces
  rw [whole] at text
  generalize outer ++ inner = lead at whole front_eq text
  by_cases none : lead = []
  · subst none
    exact ⟨"", _, pieces, by simpa using text.symm, .inl rfl, by simpa using front_eq, piecesText, isRest⟩
  · rw [Text.intercalate_append "/" none (by simp)] at text
    refine ⟨String.intercalate "/" lead ++ ("/" ++ ""), _, pieces, ?_, .inr ⟨_, rfl⟩, ?_, piecesText, isRest⟩
    · rw [← text]
      simp [String.append_assoc]
    · rw [steps_append_slash, steps_empty, List.append_nil, stepsOf, pieces_front none whole, front_eq]

end FilePath

end Companion
