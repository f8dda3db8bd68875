import Mathlib.Data.String.Basic

set_option autoImplicit false

namespace Companion.Text

def octets (text : String) : List UInt8 :=
  text.toUTF8.data.toList

theorem octets_eq_flatMap (text : String) : octets text = text.toList.flatMap String.utf8EncodeChar := by
  rw [octets, String.toUTF8_eq_toByteArray, ← String.utf8Encode_toList, List.utf8Encode, List.data_toByteArray]

/-- How many octets follow the first one of the spelling of a code point. -/
def trailing (code : Nat) : Nat :=
  if code ≤ 0x7F then 0 else if code ≤ 0x7FF then 1 else if code ≤ 0xFFFF then 2 else 3

/-- What marks the first octet of a spelling by the number of octets that follow. -/
def mark : Nat → Nat
  | 0 => 0
  | 1 => 0xC0
  | 2 => 0xE0
  | _ => 0xF0

/-- How many values the first octet of a spelling can have above its mark. -/
def room : Nat → Nat
  | 0 => 0x80
  | 1 => 0x20
  | 2 => 0x10
  | _ => 8

/-- The octets that follow: the last digits of a number to the base of 64. -/
def trail : Nat → Nat → List UInt8
  | 0, _ => []
  | count + 1, code => UInt8.ofNat (code / 64 ^ count % 64 + 0x80) :: trail count code

def lead (count code : Nat) : Nat :=
  code / 64 ^ count % room count + mark count

theorem utf8EncodeChar_eq (c : Char) :
    String.utf8EncodeChar c = UInt8.ofNat (lead (trailing c.val.toNat) c.val.toNat) ::
      trail (trailing c.val.toNat) c.val.toNat := by
  unfold String.utf8EncodeChar trailing
  generalize c.val.toNat = code
  dsimp only
  split_ifs with one
  · simp [lead, room, mark, trail, Nat.mod_eq_of_lt (show code < 128 by omega)]
  all_goals simp [lead, room, mark, trail]

theorem trailing_mono {code other : Nat} (less : code < other) : trailing code ≤ trailing other := by
  unfold trailing
  split_ifs <;> omega

theorem fits_room {code : Nat} (bound : code < 0x110000) :
    code / 64 ^ trailing code < room (trailing code) ∧ trailing code < 4 := by
  unfold trailing
  split_ifs <;> refine ⟨?_, by omega⟩ <;> simp only [room] <;> omega

theorem mark_mono {count other : Nat} (less : count < other) (few : other < 4) : room count + mark count ≤ mark other := by
  have all : ∀ other : Fin 4, ∀ count : Fin 4, count < other → room count + mark count ≤ mark other := by decide
  exact all ⟨other, few⟩ ⟨count, less.trans few⟩ less

theorem room_add_mark_le (count : Nat) : room count + mark count ≤ 256 := by
  unfold room mark
  split <;> decide

theorem lex_cons {a b : Nat} (bound : b < 256) {left right : List UInt8}
    (before : a < b ∨ a = b ∧ List.Lex (· < ·) left right) :
    List.Lex (· < ·) (UInt8.ofNat a :: left) (UInt8.ofNat b :: right) := by
  obtain less | ⟨rfl, rest⟩ := before
  · refine .rel (UInt8.lt_iff_toNat_lt.mpr ?_)
    rwa [UInt8.toNat_ofNat', UInt8.toNat_ofNat', Nat.mod_eq_of_lt (less.trans bound), Nat.mod_eq_of_lt bound]
  · exact .cons rest

/-- Numbers whose first digits are equal are told apart by the octets of the others. -/
theorem lex_trail {code other : Nat} (less : code < other) (left right : List UInt8) (count : Nat)
    (same : code / 64 ^ count = other / 64 ^ count) :
    List.Lex (· < ·) (trail count code ++ left) (trail count other ++ right) := by
  induction count with
  | zero => simp at same; omega
  | succ count ih =>
      have upper : code / 64 ^ count / 64 = other / 64 ^ count / 64 := by
        rw [Nat.div_div_eq_div_mul, Nat.div_div_eq_div_mul, ← pow_succ, same]
      have ordered : code / 64 ^ count ≤ other / 64 ^ count := Nat.div_le_div_right less.le
      refine lex_cons (by omega) ?_
      obtain digits | digits := ordered.lt_or_eq
      · exact .inl (by omega)
      · exact .inr ⟨by rw [digits], ih digits⟩

/-- Spellings of equal length are told apart by their octets in order. -/
theorem lex_lead {code other count : Nat} (less : code < other) (fits : other / 64 ^ count < room count)
    (left right : List UInt8) :
    List.Lex (· < ·) (UInt8.ofNat (lead count code) :: (trail count code ++ left))
      (UInt8.ofNat (lead count other) :: (trail count other ++ right)) := by
  have ordered : code / 64 ^ count ≤ other / 64 ^ count := Nat.div_le_div_right less.le
  have octet := room_add_mark_le count
  rw [lead, lead, Nat.mod_eq_of_lt fits, Nat.mod_eq_of_lt (ordered.trans_lt fits)]
  refine lex_cons (by omega) ?_
  obtain first | first := ordered.lt_or_eq
  · exact .inl (by omega)
  · exact .inr ⟨by rw [first], lex_trail less left right count first⟩

/-- A lesser character is spelled by lesser octets, whatever stands behind. -/
theorem lex_utf8EncodeChar {c d : Char} (less : c < d) (left right : List UInt8) :
    List.Lex (· < ·) (String.utf8EncodeChar c ++ left) (String.utf8EncodeChar d ++ right) := by
  have codes : c.val.toNat < d.val.toNat := UInt32.lt_iff_toNat_lt.mp less
  have bound : d.val.toNat < 0x110000 := by
    obtain low | ⟨-, high⟩ := d.valid
    · exact low.trans (by decide)
    · exact high
  rw [utf8EncodeChar_eq, utf8EncodeChar_eq, List.cons_append, List.cons_append]
  generalize c.val.toNat = code at codes ⊢
  generalize d.val.toNat = other at codes bound ⊢
  obtain ⟨room_other, few⟩ := fits_room bound
  obtain shorter | equal := (trailing_mono codes).lt_or_eq
  · have apart := mark_mono shorter few
    have octet := room_add_mark_le (trailing other)
    have value := Nat.mod_lt (code / 64 ^ trailing code) (fits_room (codes.trans bound)).1.pos
    have otherValue := Nat.mod_lt (other / 64 ^ trailing other) room_other.pos
    exact lex_cons (by unfold lead; omega) (.inl (by unfold lead; omega))
  · rw [equal]
    exact lex_lead codes room_other left right

theorem lex_octets {text other : List Char} (less : List.Lex (· < ·) text other) :
    List.Lex (· < ·) (text.flatMap String.utf8EncodeChar) (other.flatMap String.utf8EncodeChar) := by
  induction less with
  | nil =>
      rw [List.flatMap_nil, List.flatMap_cons, utf8EncodeChar_eq, List.cons_append]
      exact .nil
  | cons _ ih =>
      rw [List.flatMap_cons, List.flatMap_cons]
      exact ih.append_left _ _
  | rel less =>
      rw [List.flatMap_cons, List.flatMap_cons]
      exact lex_utf8EncodeChar less _ _

theorem lt_iff_octets_lt {text other : String} : text < other ↔ octets text < octets other := by
  have octetsLess : ∀ {text other : String}, text < other → octets text < octets other := fun less => by
    rw [octets_eq_flatMap, octets_eq_flatMap]
    exact lex_octets (String.lt_iff_toList_lt.mp less)
  refine ⟨octetsLess, fun less => ?_⟩
  obtain before | rfl | behind := lt_trichotomy text other
  · exact before
  · exact absurd less (List.lt_irrefl _)
  · exact absurd less (List.lt_asymm (octetsLess behind))

end Companion.Text
