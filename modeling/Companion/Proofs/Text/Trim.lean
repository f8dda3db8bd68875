import Companion.Text.Blank

set_option autoImplicit false

namespace Companion.Text

/-- Whether a text has no white space at its ends. -/
structure IsTrimmed (text : String) : Prop where
  first : ∀ c ∈ text.toList.head?, isBlank c = false
  last : ∀ c ∈ text.toList.getLast?, isBlank c = false

theorem trimFront_eq_self_iff {text : List Char} : trimFront text = text ↔ ∀ c ∈ text.head?, isBlank c = false := by
  cases text with
  | nil => simp [trimFront]
  | cons c rest =>
      cases blank : isBlank c with
      | false => simp [trimFront, blank]
      | true =>
          have shorter : (rest.dropWhile isBlank).length ≤ rest.length := (List.dropWhile_suffix isBlank).length_le
          have differ : rest.dropWhile isBlank ≠ c :: rest := fun same => by
            rw [same, List.length_cons] at shorter
            omega
          simp [trimFront, blank, differ]

theorem trimBack_eq_self_iff {text : List Char} : trimBack text = text ↔ ∀ c ∈ text.getLast?, isBlank c = false := by
  rw [← List.head?_reverse, ← trimFront_eq_self_iff, trimFront, trimBack, ← List.reverse_inj, List.reverse_reverse]

theorem head?_trimFront {c : Char} (text : List Char) (isFirst : c ∈ (trimFront text).head?) : isBlank c = false := by
  have first := List.head?_dropWhile_not isBlank text
  rw [trimFront, Option.mem_def] at isFirst
  simpa [isFirst] using first

theorem getLast?_trimBack {c : Char} (text : List Char) (isLast : c ∈ (trimBack text).getLast?) : isBlank c = false := by
  rw [trimBack, List.getLast?_reverse] at isLast
  exact head?_trimFront text.reverse isLast

theorem isPrefix_trimBack (text : List Char) : trimBack text <+: text := by
  have dropped := List.reverse_prefix.mpr (List.dropWhile_suffix (l := text.reverse) isBlank)
  rwa [List.reverse_reverse] at dropped

theorem isTrimmed_trim (text : String) : IsTrimmed (trim text) := by
  have chars : (trim text).toList = trimBack (trimFront text.toList) := by simp [trim, trimChars]
  refine ⟨fun c isFirst => ?_, fun c isLast => getLast?_trimBack _ (chars ▸ isLast)⟩
  -- What is left at the back begins as it did before, unless nothing is left.
  obtain ⟨dropped, whole⟩ := isPrefix_trimBack (trimFront text.toList)
  rw [chars, Option.mem_def] at isFirst
  refine head?_trimFront text.toList ?_
  rw [← whole, List.head?_append, isFirst]
  rfl

theorem trim_eq_self_iff {text : String} : trim text = text ↔ IsTrimmed text := by
  constructor
  · intro same
    rw [← same]
    exact isTrimmed_trim text
  · intro trimmed
    have front : trimFront text.toList = text.toList := trimFront_eq_self_iff.mpr trimmed.first
    have back : trimBack text.toList = text.toList := trimBack_eq_self_iff.mpr trimmed.last
    rw [trim, trimChars, front, back, String.ofList_toList]

/-- A text that trimming leaves has no white space at its front, nor at its end. -/
theorem trimmed_cases {text : String} (trimmed : trim text = text) :
    trimFront text.toList = text.toList ∧ trimEnd text = text := by
  have ends := trim_eq_self_iff.mp trimmed
  refine ⟨trimFront_eq_self_iff.mpr ends.first, ?_⟩
  rw [trimEnd, trimBack_eq_self_iff.mpr ends.last, String.ofList_toList]

theorem mem_of_mem_trim {c : Char} {text : String} (member : c ∈ (trim text).toList) : c ∈ text.toList := by
  rw [trim, String.toList_ofList] at member
  exact (List.dropWhile_sublist isBlank).subset ((isPrefix_trimBack _).subset member)

end Companion.Text
