import Companion.Naming
import Mathlib.Computability.RegularExpressions

set_option autoImplicit false

namespace Companion.Naming

theorem ascii_of_isAlphanum {c : Char} (isAlphanum : c.isAlphanum = true) : c.toNat < 128 := by
  have bounds : (65 ≤ c.val.toNat ∧ c.val.toNat ≤ 90) ∨ (97 ≤ c.val.toNat ∧ c.val.toNat ≤ 122) ∨
      (48 ≤ c.val.toNat ∧ c.val.toNat ≤ 57) := by
    have ranges : c.isAlphanum = ((decide (65 ≤ c.val ∧ c.val ≤ 90) || decide (97 ≤ c.val) && decide (c.val ≤ 122)) ||
        decide (48 ≤ c.val) && decide (c.val ≤ 57)) := rfl
    simpa [ranges, UInt32.le_iff_toNat_le, or_assoc] using isAlphanum
  have value : c.toNat = c.val.toNat := rfl
  omega

theorem isWordPart_of_isWordStart {c : Char} (starts : isWordStart c = true) : isWordPart c = true := by
  obtain isAlpha | isUnderscore := Bool.or_eq_true_iff.mp starts
  · simp [isWordPart, Char.isAlphanum, isAlpha]
  · simp [isWordPart, isUnderscore]

theorem ascii_of_isWordPart {c : Char} (isPart : isWordPart c = true) : c.toNat < 128 := by
  obtain isAlphanum | isUnderscore := Bool.or_eq_true_iff.mp isPart
  · exact ascii_of_isAlphanum isAlphanum
  · rw [eq_of_beq isUnderscore]
    decide

theorem ascii_of_isIdentifier {text : String} (isIdentifier : isIdentifier text = true) {c : Char}
    (member : c ∈ text.toList) : c.toNat < 128 := by
  unfold Naming.isIdentifier at isIdentifier
  split at isIdentifier
  · exact nomatch isIdentifier
  · rename_i first others chars
    rw [chars] at member
    obtain ⟨starts, parts⟩ := Bool.and_eq_true_iff.mp isIdentifier
    obtain rfl | inside := List.mem_cons.mp member
    · exact ascii_of_isWordPart (isWordPart_of_isWordStart starts)
    · exact ascii_of_isWordPart (List.all_eq_true.mp parts c inside)

def oneOf (chars : List Char) : RegularExpression Char :=
  (chars.map RegularExpression.char).sum

/-- The characters `A-Z`, `a-z` and `_`. -/
def wordStarts : List Char :=
  "ABCDEFGHIJKLMNOPQRSTUVWXYZabcdefghijklmnopqrstuvwxyz_".toList

/-- The characters `A-Z`, `a-z`, `0-9` and `_`. -/
def wordParts : List Char :=
  wordStarts ++ "0123456789".toList

/-- The pattern `[A-Za-z_][A-Za-z0-9_]*`. -/
def identifierPattern : RegularExpression Char :=
  oneOf wordStarts * (oneOf wordParts).star

def Matches (text : String) (pattern : RegularExpression Char) : Prop :=
  text.toList ∈ pattern.matches'

theorem mem_oneOf {chars text : List Char} : text ∈ (oneOf chars).matches' ↔ ∃ c ∈ chars, text = [c] := by
  induction chars with
  | nil => simp [oneOf, RegularExpression.matches']
  | cons first others ih =>
      have split : oneOf (first :: others) = RegularExpression.char first + oneOf others := by simp [oneOf]
      have isFirst : text ∈ (RegularExpression.char first).matches' ↔ text = [first] := Set.mem_singleton_iff
      rw [split, RegularExpression.matches'_add, Language.mem_add, ih, isFirst]
      simp

theorem mem_star_oneOf {chars text : List Char} :
    text ∈ (oneOf chars).star.matches' ↔ ∀ c ∈ text, c ∈ chars := by
  rw [RegularExpression.matches'_star, Language.mem_kstar]
  constructor
  · rintro ⟨words, rfl, fit⟩ c member
    obtain ⟨word, isWord, inside⟩ := List.mem_flatten.mp member
    obtain ⟨other, isOne, rfl⟩ := mem_oneOf.mp (fit word isWord)
    rwa [List.mem_singleton.mp inside]
  · intro fit
    refine ⟨text.map ([·]), List.flatMap_singleton' text |>.symm, ?_⟩
    intro word isWord
    obtain ⟨c, member, rfl⟩ := List.mem_map.mp isWord
    exact mem_oneOf.mpr ⟨c, fit c member, rfl⟩

/-- A list of characters has just those of a sort, if the sort is within ASCII and they agree there. -/
theorem mem_iff_of_ascii {chars : List Char} {isOfSort : Char → Bool} (listed : chars.all isOfSort = true)
    (ascii : ∀ c, isOfSort c = true → c.toNat < 128)
    (covered : ∀ n : Fin 128, isOfSort (Char.ofNat n) = true → Char.ofNat n ∈ chars) (c : Char) :
    c ∈ chars ↔ isOfSort c = true := by
  refine ⟨List.all_eq_true.mp listed c, fun isOfIt => ?_⟩
  have same : Char.ofNat c.toNat = c := Char.ofNat_toNat c
  have member := covered ⟨c.toNat, ascii c isOfIt⟩
  rw [same] at member
  exact member isOfIt

theorem mem_wordStarts {c : Char} : c ∈ wordStarts ↔ isWordStart c = true :=
  mem_iff_of_ascii (by decide) (fun _ start => ascii_of_isWordPart (isWordPart_of_isWordStart start))
    (by decide +kernel) c

theorem mem_wordParts {c : Char} : c ∈ wordParts ↔ isWordPart c = true :=
  mem_iff_of_ascii (by decide) (fun _ => ascii_of_isWordPart) (by decide +kernel) c

/-- A text is a plain identifier exactly if it matches the pattern. -/
theorem isIdentifier_iff {text : String} : isIdentifier text = true ↔ Matches text identifierPattern := by
  unfold isIdentifier Matches identifierPattern
  rw [RegularExpression.matches'_mul, Language.mem_mul]
  constructor
  · intro isIdentifier
    split at isIdentifier
    · contradiction
    · rename_i first others chars
      obtain ⟨start, parts⟩ := Bool.and_eq_true_iff.mp isIdentifier
      refine ⟨[first], mem_oneOf.mpr ⟨first, mem_wordStarts.mpr start, rfl⟩, others, ?_, chars.symm⟩
      exact mem_star_oneOf.mpr fun c member => mem_wordParts.mpr (List.all_eq_true.mp parts c member)
  · rintro ⟨front, isFront, others, parts, chars⟩
    obtain ⟨first, start, rfl⟩ := mem_oneOf.mp isFront
    have fit : others.all isWordPart = true :=
      List.all_eq_true.mpr fun c member => mem_wordParts.mp (mem_star_oneOf.mp parts c member)
    rw [← chars]
    simp [mem_wordStarts.mp start, fit]

end Companion.Naming
