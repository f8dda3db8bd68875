import Companion.Proofs.FilePath

/-!
The steps of a path and of its parent. A path that does not end in a `.` has the steps of its parent, then steps that
stay, and then one more; and its parent does not end in a `.` either, so this can be said again and again.
-/

set_option autoImplicit false

namespace Companion.FilePath

/-- Whether a path that ends in a `.` consists of it. -/
def Trimmed (path : FilePath) : Prop :=
  ∀ front, FileSystem.stepsOf path.text = front ++ ["."] → front = []

/-- What is dropped from the end of a path is nothing, or a step that stays. -/
theorem exists_dropIdle (absolute : Bool) (backwards : List String) :
    ∃ dropped, backwards = dropped ++ dropIdle absolute backwards ∧ ∀ piece ∈ dropped, piece ≠ "" → piece = "." := by
  induction backwards with
  | nil => exact ⟨[], rfl, by simp⟩
  | cons piece before ih =>
      unfold dropIdle
      split
      · rename_i isIdle
        obtain ⟨dropped, split, stay⟩ := ih
        refine ⟨piece :: dropped, by rw [List.cons_append, ← split], List.forall_mem_cons.mpr ⟨fun counts => ?_, stay⟩⟩
        simp only [idle, Bool.or_eq_true, beq_iff_eq, counts, false_or, Bool.and_eq_true] at isIdle
        exact isIdle.1
      · exact ⟨[], rfl, by simp⟩

/-- What is kept of a path ends in a piece that counts. -/
theorem not_idle_of_dropIdle {absolute : Bool} {backwards before : List String} {piece : String}
    (kept : dropIdle absolute backwards = piece :: before) : idle absolute before.length piece = false := by
  induction backwards with
  | nil => simp [dropIdle] at kept
  | cons next others ih =>
      unfold dropIdle at kept
      split at kept
      · exact ih kept
      · rename_i counts
        obtain ⟨rfl, rfl⟩ := List.cons.inj kept
        simpa using counts

theorem stay_of_dropped {dropped : List String} (stay : ∀ piece ∈ dropped, piece ≠ "" → piece = ".") :
    ∀ step ∈ dropped.reverse.filter (· ≠ ""), step = "." := by
  intro step member
  obtain ⟨isDropped, counts⟩ := List.mem_filter.mp member
  exact stay step (List.mem_reverse.mp isDropped) (by simpa using counts)

theorem eq_nil_of_stay {front tail : List String} {last : String} (stay : ∀ step ∈ tail, step = ".")
    (trimmed : ∀ others, front ++ last :: tail = others ++ ["."] → others = []) : tail = [] := by
  obtain none | ⟨others, final, ends⟩ := List.eq_nil_or_concat tail
  · exact none
  · rw [List.concat_eq_append] at ends
    have isDot : final = "." := stay final (by simp [ends])
    have empty := trimmed (front ++ last :: others) (by simp [ends, isDot])
    simp at empty

section Pieces

variable {path : FilePath} {last : String} {before : List String}

theorem steps_split (ends : dropIdle path.isAbsolute path.pieces.reverse = last :: before) :
    ∃ dots tail, FileSystem.stepsOf path.text =
        (dropIdle path.isAbsolute before).reverse.filter (· ≠ "") ++ dots ++ last :: tail ∧
      (∀ step ∈ dots, step = ".") ∧ ∀ step ∈ tail, step = "." := by
  obtain ⟨dropped, pieces, stay⟩ := exists_dropIdle path.isAbsolute path.pieces.reverse
  obtain ⟨inner, split, innerStay⟩ := exists_dropIdle path.isAbsolute before
  refine ⟨inner.reverse.filter (· ≠ ""), dropped.reverse.filter (· ≠ ""), ?_, stay_of_dropped innerStay,
    stay_of_dropped stay⟩
  have counts : last ≠ "" := ne_empty_of_dropIdle ends
  rw [ends] at pieces
  have forwards : path.pieces =
      (dropIdle path.isAbsolute before).reverse ++ inner.reverse ++ last :: dropped.reverse := by
    rw [← List.reverse_reverse path.pieces, pieces, List.reverse_append, List.reverse_cons]
    conv => lhs; rw [split]
    simp
  have same : FilePath.mk path.text = path := rfl
  rw [FileSystem.stepsOf, same, forwards]
  simp [counts]

end Pieces

variable {path parent : FilePath}

theorem parent?_cases (isParent : path.parent? = some parent) :
    ∃ last before, dropIdle path.isAbsolute path.pieces.reverse = last :: before ∧
      FileSystem.stepsOf parent.text = (dropIdle path.isAbsolute before).reverse.filter (· ≠ "") ∧
      (dropIdle path.isAbsolute before = [] ∨
        parent.pieces = (dropIdle path.isAbsolute before).reverse) := by
  unfold parent? at isParent
  cases ends : dropIdle path.isAbsolute path.pieces.reverse with
  | nil => simp [ends] at isParent
  | cons last before =>
      refine ⟨last, before, rfl, ?_⟩
      cases rest : dropIdle path.isAbsolute before with
      | nil =>
          have noSteps : FileSystem.stepsOf "/" = [] := by simpa using steps_append_slash "" ""
          have here : parent = if path.isAbsolute then ⟨"/"⟩ else empty := by simpa [ends, rest] using isParent.symm
          refine ⟨?_, .inl rfl⟩
          rw [here]
          split <;> simp [noSteps, empty]
      | cons piece others =>
          have here : parent = ⟨String.intercalate "/" (piece :: others).reverse⟩ := by
            simpa [ends, rest] using isParent.symm
          obtain ⟨dropped, pieces, -⟩ := exists_dropIdle path.isAbsolute path.pieces.reverse
          obtain ⟨inner, split, -⟩ := exists_dropIdle path.isAbsolute before
          have inside : ∀ found ∈ (piece :: others).reverse, '/' ∉ found.toList := by
            intro found member
            have isPiece : found ∈ path.pieces.reverse := by
              rw [pieces, ends, split, rest]
              simp [List.mem_reverse.mp member]
            exact slashFree_of_mem_pieces (List.mem_reverse.mp isPiece)
          have kept := pieces_intercalate (by simp) inside
          rw [← here] at kept
          refine ⟨?_, .inr kept⟩
          have same : FilePath.mk parent.text = parent := rfl
          rw [FileSystem.stepsOf, same, kept]

/-- A path that does not end in a `.` goes on from its parent by steps that stay, and then one more. -/
theorem steps_of_parent (trimmed : path.Trimmed) (isParent : path.parent? = some parent) :
    ∃ dots last, FileSystem.stepsOf path.text = FileSystem.stepsOf parent.text ++ dots ++ [last] ∧
      ∀ step ∈ dots, step = "." := by
  obtain ⟨last, before, ends, parentSteps, -⟩ := parent?_cases isParent
  obtain ⟨dots, tail, steps, dotsStay, tailStay⟩ := steps_split ends
  have none : tail = [] := eq_nil_of_stay tailStay fun others same => trimmed others (by rw [steps, same])
  exact ⟨dots, last, by rw [steps, parentSteps, none], dotsStay⟩

/-- Parents do not end in a `.` behind something. -/
theorem trimmed_parent (isParent : path.parent? = some parent) : parent.Trimmed := by
  obtain ⟨last, before, -, steps, nothing | pieces⟩ := parent?_cases isParent
  · intro front ends
    simp [steps, nothing] at ends
  · intro front ends
    rw [steps] at ends
    cases kept : dropIdle path.isAbsolute before with
    | nil => simp [kept] at ends
    | cons piece others =>
        have counts : piece ≠ "" := ne_empty_of_dropIdle kept
        have final : piece = "." := by
          rw [kept, List.reverse_cons, List.filter_append, List.filter_cons_of_pos (by simpa using counts)] at ends
          simpa using (List.append_inj' ends rfl).2
        have isFirst : others = [] := by
          have notIdle : idle path.isAbsolute others.length piece = false := not_idle_of_dropIdle kept
          have atFront : path.isAbsolute = false ∧ others = [] := by
            simpa [idle, final] using notIdle
          exact atFront.2
        simpa [kept, isFirst, final] using ends.symm

theorem stay_of_no_parent (none : path.parent? = none) : ∀ step ∈ FileSystem.stepsOf path.text, step = "." := by
  obtain ⟨dropped, pieces, stay⟩ := exists_dropIdle path.isAbsolute path.pieces.reverse
  unfold parent? at none
  cases ends : dropIdle path.isAbsolute path.pieces.reverse with
  | nil =>
      intro step member
      rw [ends, List.append_nil] at pieces
      obtain ⟨isPiece, counts⟩ := List.mem_filter.mp member
      exact stay step (pieces ▸ List.mem_reverse.mpr isPiece) (by simpa using counts)
  | cons last before => cases kept : dropIdle path.isAbsolute before <;> simp [ends, kept] at none

/-- Joining the pieces of a path by slashes gives the path again. -/
theorem intercalate_pieces (path : FilePath) : String.intercalate "/" path.pieces = path.text :=
  Text.intercalate_split '/' path.text

/-- The text of a parent stands at the front of the text of the path. -/
theorem exists_text_parent (isParent : path.parent? = some parent) : ∃ rest, path.text = parent.text ++ rest := by
  obtain ⟨kept, dropped, pieces, ⟨piece, isDropped, -⟩, ⟨rfl, rfl⟩ | ⟨nonempty, -, rfl⟩⟩ := pieces_parent isParent
  · cases absolute : path.isAbsolute with
    | true =>
        cases chars : path.text.toList with
        | nil => simp [isAbsolute, chars] at absolute
        | cons c rest =>
            obtain rfl : c = '/' := by simpa [isAbsolute, chars] using absolute
            exact ⟨String.ofList rest, String.toList_injective (by simp [chars])⟩
    | false => exact ⟨path.text, by simp [empty]⟩
  · have whole := path.intercalate_pieces
    rw [pieces, Text.intercalate_append "/" nonempty (List.ne_nil_of_mem isDropped)] at whole
    exact ⟨_, whole.symm⟩

end Companion.FilePath
