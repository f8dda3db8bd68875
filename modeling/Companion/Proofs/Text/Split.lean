import Companion.Text.Blank

set_option autoImplicit false

namespace Companion.Text

variable {separates : Char → Bool}

theorem splitChars_ne_nil (text : List Char) : splitChars separates text ≠ [] := by
  cases text with
  | nil => simp [splitChars]
  | cons c rest =>
      cases pieces : splitChars separates rest <;> cases isSeparator : separates c <;>
        simp [splitChars, pieces, isSeparator]

theorem splitChars_cons_separator {c : Char} (isSeparator : separates c = true) (rest : List Char) :
    splitChars separates (c :: rest) = [] :: splitChars separates rest := by
  cases pieces : splitChars separates rest with
  | nil => exact absurd pieces (splitChars_ne_nil rest)
  | cons piece others => simp [splitChars, pieces, isSeparator]

theorem splitChars_cons_other {c : Char} {rest piece : List Char} {others : List (List Char)}
    (isOther : separates c = false) (pieces : splitChars separates rest = piece :: others) :
    splitChars separates (c :: rest) = (c :: piece) :: others := by
  simp [splitChars, pieces, isOther]

/-- A separator divides the pieces on its left from those on its right. -/
theorem splitChars_append_separator {c : Char} (isSeparator : separates c = true) (left right : List Char) :
    splitChars separates (left ++ c :: right) = splitChars separates left ++ splitChars separates right := by
  induction left with
  | nil => simpa [splitChars] using splitChars_cons_separator isSeparator right
  | cons d left ih =>
      cases isOther : separates d with
      | true => simp [splitChars_cons_separator isOther, ih]
      | false =>
          cases pieces : splitChars separates left with
          | nil => exact absurd pieces (splitChars_ne_nil left)
          | cons piece others =>
              rw [pieces] at ih
              rw [splitChars_cons_other isOther pieces, List.cons_append, splitChars_cons_other isOther ih]
              rfl

theorem splitChars_of_none {text : List Char} (none : ∀ c ∈ text, separates c = false) :
    splitChars separates text = [text] := by
  induction text with
  | nil => rfl
  | cons c rest ih =>
      exact splitChars_cons_other (none c (by simp)) (ih fun d member => none d (by simp [member]))

theorem not_separates_of_mem_splitChars {text piece : List Char} (member : piece ∈ splitChars separates text)
    {c : Char} (inside : c ∈ piece) : separates c = false := by
  induction text generalizing piece with
  | nil =>
      simp only [splitChars, List.mem_singleton] at member
      simp [member] at inside
  | cons d rest ih =>
      cases isOther : separates d with
      | true =>
          rw [splitChars_cons_separator isOther] at member
          rcases List.mem_cons.mp member with rfl | member
          · simp at inside
          · exact ih member inside
      | false =>
          cases pieces : splitChars separates rest with
          | nil => exact absurd pieces (splitChars_ne_nil rest)
          | cons first others =>
              rw [splitChars_cons_other isOther pieces] at member
              rcases List.mem_cons.mp member with rfl | member
              · rcases List.mem_cons.mp inside with rfl | inside
                · exact isOther
                · exact ih (by simp [pieces]) inside
              · exact ih (by simp [pieces, member]) inside

theorem flatten_splitChars (text : List Char) : (splitChars separates text).flatten = text.filter fun c => !separates c := by
  induction text with
  | nil => rfl
  | cons c rest ih =>
      cases isSeparator : separates c with
      | true => simp [splitChars_cons_separator isSeparator, ih, isSeparator]
      | false =>
          cases pieces : splitChars separates rest with
          | nil => exact absurd pieces (splitChars_ne_nil rest)
          | cons piece others =>
              rw [pieces, List.flatten_cons] at ih
              simp [splitChars_cons_other isSeparator pieces, ih, isSeparator]

theorem mem_split_iff {c : Char} (isOther : separates c = false) (text : String) :
    (∃ piece ∈ split separates text, c ∈ piece.toList) ↔ c ∈ text.toList := by
  have whole : c ∈ (splitChars separates text.toList).flatten ↔ c ∈ text.toList := by
    rw [flatten_splitChars]
    simp [isOther]
  rw [← whole, List.mem_flatten]
  constructor
  · rintro ⟨_, member, inside⟩
    obtain ⟨piece, isPiece, rfl⟩ := List.mem_map.mp member
    exact ⟨piece, isPiece, by simpa using inside⟩
  · rintro ⟨piece, isPiece, inside⟩
    exact ⟨String.ofList piece, List.mem_map_of_mem isPiece, by simpa using inside⟩

theorem split_append_separator {c : Char} (isSeparator : separates c = true) (left right : String) :
    split separates (left ++ (String.singleton c ++ right)) = split separates left ++ split separates right := by
  simp [split, splitChars_append_separator isSeparator]

theorem split_of_none {text : String} (none : ∀ c ∈ text.toList, separates c = false) :
    split separates text = [text] := by
  simp [split, splitChars_of_none none]

/-- Joining the pieces between one separator by that separator gives the text again. -/
theorem intercalate_split (c : Char) (text : String) :
    String.intercalate (String.singleton c) (split (· == c) text) = text := by
  suffices same : ∀ chars : List Char,
      String.intercalate (String.singleton c) ((splitChars (· == c) chars).map String.ofList) = String.ofList chars by
    simpa [split] using same text.toList
  intro chars
  induction chars with
  | nil => simp [splitChars]
  | cons d rest ih =>
      cases isSeparator : d == c with
      | true =>
          obtain rfl : d = c := eq_of_beq isSeparator
          rw [splitChars_cons_separator (by simp)]
          cases pieces : splitChars (· == d) rest with
          | nil => exact absurd pieces (splitChars_ne_nil rest)
          | cons piece others =>
              rw [pieces, List.map_cons] at ih
              rw [List.map_cons, List.map_cons, String.intercalate_cons_cons, ih]
              exact String.toList_injective (by simp)
      | false =>
          cases pieces : splitChars (· == c) rest with
          | nil => exact absurd pieces (splitChars_ne_nil rest)
          | cons piece others =>
              rw [pieces] at ih
              have divided : splitChars (· == c) (d :: rest) = (d :: piece) :: others :=
                splitChars_cons_other isSeparator pieces
              rw [divided]
              cases others with
              | nil =>
                  have same : String.ofList piece = String.ofList rest := by simpa using ih
                  simp [String.ofList_injective same]
              | cons next others =>
                  rw [List.map_cons, List.map_cons, String.intercalate_cons_cons] at ih ⊢
                  have chars := congrArg String.toList ih
                  exact String.toList_injective (by simpa using chars)

/-- Splitting undoes joining, where no part holds the separator. -/
theorem split_intercalate {c : Char} {parts : List String} (nonempty : parts ≠ [])
    (lack : ∀ part ∈ parts, c ∉ part.toList) :
    split (· == c) (String.intercalate (String.singleton c) parts) = parts := by
  have alone : ∀ part ∈ parts, split (· == c) part = [part] := fun part member =>
    split_of_none fun d inside => by
      have other : d ≠ c := fun same => lack part member (same ▸ inside)
      simpa using other
  induction parts with
  | nil => contradiction
  | cons part others ih =>
      cases others with
      | nil => rw [String.intercalate_singleton, alone part (by simp)]
      | cons next rest =>
          rw [String.intercalate_cons_cons, String.append_assoc, split_append_separator (by simp), alone part (by simp),
            ih (by simp) (fun other member => lack other (List.mem_cons_of_mem _ member)) fun other member =>
              alone other (List.mem_cons_of_mem _ member)]
          rfl

theorem intercalate_append (separator : String) {kept dropped : List String} (keptSome : kept ≠ [])
    (droppedSome : dropped ≠ []) :
    String.intercalate separator (kept ++ dropped) =
      String.intercalate separator kept ++ (separator ++ String.intercalate separator dropped) := by
  induction kept with
  | nil => contradiction
  | cons piece others ih =>
      cases others with
      | nil =>
          cases dropped with
          | nil => contradiction
          | cons first rest => simp [String.intercalate_cons_cons, String.append_assoc]
      | cons next others =>
          have rest := ih (by simp)
          rw [List.cons_append, List.cons_append, String.intercalate_cons_cons, String.intercalate_cons_cons,
            ← List.cons_append, rest]
          simp [String.append_assoc]

end Companion.Text
