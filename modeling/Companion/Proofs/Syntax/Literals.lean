import Companion.Syntax.Literal
import Companion.Text.Quoted

set_option autoImplicit false

namespace Companion.Syntax.Literal

open Companion.Text (codeEscape escapeChar hexadecimal isPlain literalChars stringLiteral)

theorem codePoint_cons {c : Char} (opens : c ≠ '\x7d') (isDigit : c ≠ '_') (value : Nat) (rest : List Char) :
    codePoint value (c :: rest) = codePoint (value * 16 + Lexeme.digitValue c) rest := by
  rw [codePoint]
  · exact opens
  · exact isDigit

theorem codePoint_digitChar {digit : Nat} (small : digit < 16) (value : Nat) (rest : List Char) :
    codePoint value (digit.digitChar :: rest) = codePoint (value * 16 + digit) rest := by
  have facts : ∀ digit : Fin 16, digit.val.digitChar ≠ '\x7d' ∧ digit.val.digitChar ≠ '_' ∧
      Lexeme.digitValue digit.val.digitChar = digit.val := by decide
  obtain ⟨opens, isDigit, same⟩ := facts ⟨digit, small⟩
  rw [codePoint_cons opens isDigit, same]

/-- The digits of a number are read as the number. The induction follows the digits from the last one to the front. -/
theorem codePoint_hexadecimal (number : Nat) (rest : List Char) :
    codePoint 0 (hexadecimal number ++ rest) = codePoint number rest := by
  induction number using Nat.strongRecOn generalizing rest with
  | ind number ih =>
      unfold hexadecimal at ih ⊢
      by_cases small : number < 16
      · rw [Nat.toDigits_of_lt_base small, List.singleton_append, codePoint_digitChar small, Nat.zero_mul, Nat.zero_add]
      · have whole : number / 16 * 16 + number % 16 = number := by omega
        rw [Nat.toDigits_of_base_le (by omega) (by omega), List.append_assoc, ih _ (by omega), List.singleton_append,
          codePoint_digitChar (Nat.mod_lt _ (by omega)), whole]

/-- Whether a character is read from its spelling, whatever follows. -/
def SpelledBy (c : Char) (front : List Char) : Prop :=
  ∀ fuel rest, cookedWithin (fuel + 1) (front ++ rest) = c :: cookedWithin fuel rest

theorem spelledBy_codeEscape (c : Char) : SpelledBy c (codeEscape c) := fun fuel rest => by
  have digits : codePoint 0 (hexadecimal c.toNat ++ '\x7d' :: rest) = (c.toNat, rest) := by
    rw [codePoint_hexadecimal, codePoint]
  simp [codeEscape, cookedWithin, digits, Char.ofNat_toNat]

theorem spelledBy_self {c : Char} (noQuote : c ≠ '"') (noEscape : c ≠ '\\') (noReturn : c ≠ '\r') : SpelledBy c [c] :=
    fun fuel rest => by
  rw [List.singleton_append, cookedWithin]
  all_goals simp_all

theorem spelledBy_escapeChar (c : Char) (visible : c ≠ '\x00') : SpelledBy c (escapeChar c) := by
  unfold escapeChar
  split
  · intro fuel rest
    rfl
  · intro fuel rest
    rfl
  · intro fuel rest
    rfl
  · intro fuel rest
    rfl
  · intro fuel rest
    rfl
  · contradiction
  · rename_i noQuote noEscape _ noReturn _ _
    split
    · exact spelledBy_self noQuote noEscape noReturn
    · exact spelledBy_codeEscape c

def spelling (c : Char) (rest : List Char) : List Char :=
  if c == '\x00' then
    match rest with
    | d :: _ => if '0' ≤ d && d ≤ '7' then ['\\', 'x', '0', '0'] else ['\\', '0']
    | [] => ['\\', '0']
  else escapeChar c

theorem literalChars_cons (c : Char) (rest : List Char) : literalChars (c :: rest) = spelling c rest ++ literalChars rest :=
  rfl

theorem spelledBy_spelling (c : Char) (rest : List Char) : SpelledBy c (spelling c rest) := by
  unfold spelling
  split
  · rename_i isNull
    obtain rfl := beq_iff_eq.mp isNull
    split
    · split <;> exact fun _ _ => rfl
    · exact fun _ _ => rfl
  · rename_i visible
    exact spelledBy_escapeChar c (by simpa using visible)

theorem spelling_ne_nil (c : Char) (rest : List Char) : spelling c rest ≠ [] := by
  intro nothing
  have read := spelledBy_spelling c rest 0 ['"']
  rw [nothing] at read
  simp [cookedWithin] at read

/-- The spelling of a text is read back up to the quote behind it. -/
theorem cookedWithin_literalChars {fuel : Nat} {text : List Char} (enough : (literalChars text).length < fuel) :
    cookedWithin fuel (literalChars text ++ ['"']) = text := by
  induction text generalizing fuel with
  | nil =>
      obtain ⟨fuel, rfl⟩ := Nat.exists_eq_add_one_of_ne_zero (Nat.ne_of_gt enough)
      rfl
  | cons c rest ih =>
      have some : 0 < (spelling c rest).length := List.length_pos_iff.mpr (spelling_ne_nil c rest)
      rw [literalChars_cons, List.length_append] at enough
      obtain ⟨fuel, rfl⟩ := Nat.exists_eq_add_one_of_ne_zero (show fuel ≠ 0 by omega)
      rw [literalChars_cons, List.append_assoc, spelledBy_spelling, ih (by omega)]

/-- A string literal stands for the text that it was made of. -/
theorem stringValue_stringLiteral (text : String) : stringValue (stringLiteral text).toList = some text.toList := by
  have chars : (stringLiteral text).toList = '"' :: (literalChars text.toList ++ ['"']) := by simp [stringLiteral]
  rw [chars, stringValue, cookedWithin_literalChars (by grind)]

end Companion.Syntax.Literal
