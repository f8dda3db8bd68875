import Companion.Text.Blank
import Mathlib.Data.List.Basic
import Mathlib.Data.List.Infix

set_option autoImplicit false

namespace Companion.Text

/-- At how many places of a text a pattern stands. The places may overlap. -/
def occurrences (pattern : String) : List Char → Nat
  | [] => 0
  | c :: rest => (if pattern.toList.isPrefixOf (c :: rest) then 1 else 0) + occurrences pattern rest

def Contains (text pattern : String) : Prop :=
  pattern.toList <:+: text.toList

instance (text pattern : String) : Decidable (Contains text pattern) :=
  inferInstanceAs (Decidable (_ <:+: _))

section Separator

variable {pattern : String} {c : Char}

theorem prefix_append_separator {front : List Char} (lacks : c ∉ front) (left right : List Char) :
    front <+: left ++ c :: right ↔ front <+: left := by
  induction left generalizing front with
  | nil =>
      cases front with
      | nil => simp
      | cons d front =>
          have differs : d ≠ c := fun same => lacks (same ▸ List.mem_cons_self)
          simp [List.cons_prefix_cons, differs]
  | cons e left ih =>
      cases front with
      | nil => simp
      | cons d front =>
          rw [List.cons_append, List.cons_prefix_cons, List.cons_prefix_cons, ih fun inside => lacks (List.mem_cons_of_mem d inside)]

theorem infix_append_separator {front : List Char} (nonempty : front ≠ []) (lacks : c ∉ front) (left right : List Char) :
    front <:+: left ++ c :: right ↔ front <:+: left ∨ front <:+: right := by
  induction left with
  | nil =>
      have absent : ¬ front <+: c :: right := fun leads => nonempty (by
        simpa using (prefix_append_separator lacks [] right).mp leads)
      simp [List.infix_cons_iff, absent, nonempty]
  | cons d left ih =>
      have same : front <+: d :: (left ++ c :: right) ↔ front <+: d :: left := prefix_append_separator lacks (d :: left) right
      rw [List.cons_append, List.infix_cons_iff, List.infix_cons_iff, same, ih, or_assoc]

/-- A pattern stands in front of a character that it lacks, or behind it. -/
theorem contains_append_separator (nonempty : pattern ≠ "") (lacks : c ∉ pattern.toList) (left right : String) :
    Contains (left ++ (String.singleton c ++ right)) pattern ↔ Contains left pattern ∨ Contains right pattern := by
  have divided := infix_append_separator (mt String.toList_eq_nil_iff.mp nonempty) lacks left.toList right.toList
  unfold Contains
  rw [← divided]
  simp

theorem occurrences_append_separator (nonempty : pattern ≠ "") (lacks : c ∉ pattern.toList) (left right : List Char) :
    occurrences pattern (left ++ c :: right) = occurrences pattern left + occurrences pattern right := by
  have same : ∀ left, pattern.toList.isPrefixOf (left ++ c :: right) = pattern.toList.isPrefixOf left := fun left => by
    rw [Bool.eq_iff_iff, List.isPrefixOf_iff_prefix, List.isPrefixOf_iff_prefix]
    exact prefix_append_separator lacks left right
  induction left with
  | nil =>
      have absent := same []
      rw [List.nil_append] at absent
      simp [occurrences, absent, nonempty]
  | cons d left ih =>
      have here := same (d :: left)
      rw [List.cons_append] at here
      rw [List.cons_append, occurrences, occurrences, here, ih, Nat.add_assoc]

/-- A pattern that is not contained in a text stands at no place of it. -/
theorem occurrences_eq_zero {text : String} (absent : ¬ Contains text pattern) : occurrences pattern text.toList = 0 := by
  unfold Contains at absent
  generalize text.toList = chars at absent
  induction chars with
  | nil => rfl
  | cons d rest ih =>
      rw [List.infix_cons_iff, not_or, ← List.isPrefixOf_iff_prefix] at absent
      rw [occurrences, if_neg absent.1, ih absent.2]

end Separator

end Companion.Text
