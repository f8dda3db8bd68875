/-!
Reading octets as text, where the octets need not be UTF-8 throughout.
-/

set_option autoImplicit false

namespace Companion.Text

/-- The number of octets that an octet in front asks for, and the bounds of the octet after it. -/
def sequenceShape (first : UInt8) : Option (Nat × UInt8 × UInt8) :=
  if first < 0x80 then some (1, 0, 0)
  else if 0xC2 ≤ first && first ≤ 0xDF then some (2, 0x80, 0xBF)
  else if first == 0xE0 then some (3, 0xA0, 0xBF)
  else if first == 0xED then some (3, 0x80, 0x9F)
  else if 0xE1 ≤ first && first ≤ 0xEF then some (3, 0x80, 0xBF)
  else if first == 0xF0 then some (4, 0x90, 0xBF)
  else if 0xF1 ≤ first && first ≤ 0xF3 then some (4, 0x80, 0xBF)
  else if first == 0xF4 then some (4, 0x80, 0x8F)
  else none

/-- How many octets in front belong to the sequence that an octet opens, at most `wanted`. -/
def continuation (low high : UInt8) : Nat → List UInt8 → Nat
  | 0, _ => 0
  | _ + 1, [] => 0
  | wanted + 1, octet :: rest =>
      if low ≤ octet && octet ≤ high then continuation 0x80 0xBF wanted rest + 1 else 0

def codePoint (first : UInt8) (rest : List UInt8) : Nat :=
  let start := match rest.length with
    | 0 => first.toNat
    | 1 => first.toNat % 0x20
    | 2 => first.toNat % 0x10
    | _ => first.toNat % 0x08
  rest.foldl (fun code octet => code * 64 + octet.toNat % 64) start

/-- Reads octets as text; each octet sequence that can be no part of a character becomes one U+FFFD. `skip` counts
the octets that still belong to a character that was read. -/
def lossyFrom (skip : Nat) : List UInt8 → List Char
  | [] => []
  | octet :: rest =>
      match skip with
      | n + 1 => lossyFrom n rest
      | 0 =>
          match sequenceShape octet with
          | none => '\uFFFD' :: lossyFrom 0 rest
          | some (size, low, high) =>
              let found := continuation low high (size - 1) rest
              if found + 1 == size then
                Char.ofNat (codePoint octet (rest.take found)) :: lossyFrom found rest
              else '\uFFFD' :: lossyFrom found rest

/-- The text of octets. Octets that are UTF-8 are read as they are. -/
def ofOctets (octets : ByteArray) : String :=
  match String.fromUTF8? octets with
  | some text => text
  | none => String.ofList (lossyFrom 0 octets.toList)

end Companion.Text
