import Companion.Text.Property

/-!
Runs of characters. A property of characters is given by the code points at which it changes; whether one property implies
another is found by going through the changes of both from the front.
-/

set_option autoImplicit false

namespace Companion.Text

/-- Whether a property holds at a code point, given the changes that are left and whether it holds in front of them. -/
def holdsFrom (before : Bool) : List Nat → Nat → Bool
  | [], _ => before
  | change :: changes, code => if change ≤ code then holdsFrom (!before) changes code else before

theorem holdsFrom_eq (before : Bool) (changes : List Nat) (code : Nat) :
    holdsFrom before changes code = (before ^^ holdsAt changes code) := by
  induction changes generalizing before with
  | nil => simp [holdsFrom, holdsAt]
  | cons change changes ih =>
      unfold holdsFrom holdsAt
      by_cases passed : change ≤ code
      · have parity : ∀ count : Nat, ((count + 1) % 2 == 1) = !(count % 2 == 1) := by
          intro count
          rcases Nat.mod_two_eq_zero_or_one count with even | odd <;> simp [Nat.add_mod, *]
        simp only [passed, if_true, ih, holdsAt, List.takeWhile_cons, decide_true, List.length_cons, parity]
        cases before <;> simp
      · simp [passed]

/-- Whether one property implies another, given the changes of both that are left and whether they hold in front of them.
At most `count` changes are looked at. -/
def implies : (count : Nat) → (first second : Bool) → (changes others : List Nat) → Bool
  | 0, _, _, _, _ => false
  | count + 1, first, second, changes, others =>
      (!first || second) &&
        match changes, others with
        | [], [] => true
        | _ :: changes, [] => implies count (!first) second changes []
        | [], _ :: others => implies count first (!second) [] others
        | change :: changes, other :: others =>
            if change < other then implies count (!first) second changes (other :: others)
            else if other < change then implies count first (!second) (change :: changes) others
            else implies count (!first) (!second) changes others

theorem holdsFrom_passed {change code : Nat} (passed : change ≤ code) (before : Bool) (changes : List Nat) :
    holdsFrom before (change :: changes) code = holdsFrom (!before) changes code :=
  if_pos passed

theorem holdsFrom_ahead {change code : Nat} (ahead : code < change) (before : Bool) (changes : List Nat) :
    holdsFrom before (change :: changes) code = before :=
  if_neg (Nat.not_le.mpr ahead)

theorem holdsFrom_of_implies {count : Nat} {first second : Bool} {changes others : List Nat}
    (implied : implies count first second changes others = true) {code : Nat}
    (holds : holdsFrom first changes code = true) : holdsFrom second others code = true := by
  induction count generalizing first second changes others with
  | zero => contradiction
  | succ count ih =>
      unfold implies at implied
      obtain ⟨here, further⟩ := Bool.and_eq_true_iff.mp implied
      have now : first = true → second = true := by
        rintro rfl
        simpa using here
      split at further
      · exact now holds
      · rename_i change changes
        rcases Nat.lt_or_ge code change with ahead | passed
        · exact now ((holdsFrom_ahead ahead first changes).symm.trans holds)
        · exact ih further ((holdsFrom_passed passed first changes).symm.trans holds)
      · rename_i other others
        rcases Nat.lt_or_ge code other with ahead | passed
        · exact (holdsFrom_ahead ahead second others).trans (now holds)
        · exact (holdsFrom_passed passed second others).trans (ih further holds)
      · rename_i change changes other others
        split at further
        · rename_i sooner
          rcases Nat.lt_or_ge code change with ahead | passed
          · rw [holdsFrom_ahead ahead] at holds
            rw [holdsFrom_ahead (Nat.lt_trans ahead sooner), now holds]
          · exact ih further ((holdsFrom_passed passed first changes).symm.trans holds)
        · split at further
          · rename_i later
            rcases Nat.lt_or_ge code other with ahead | passed
            · rw [holdsFrom_ahead (Nat.lt_trans ahead later)] at holds
              rw [holdsFrom_ahead ahead, now holds]
            · exact (holdsFrom_passed passed second others).trans (ih further holds)
          · rename_i notSooner notLater
            obtain rfl : change = other := by omega
            rcases Nat.lt_or_ge code change with ahead | passed
            · rw [holdsFrom_ahead ahead] at holds
              rw [holdsFrom_ahead ahead, now holds]
            · rw [holdsFrom_passed passed] at holds
              rw [holdsFrom_passed passed]
              exact ih further holds

/-- What can begin an identifier can also stand inside one. -/
theorem continues_of_starts {c : Char} (starts : startsIdentifier c = true) : continuesIdentifier c = true := by
  have implied : implies 4000 false false identifierStartChanges identifierContinueChanges = true := by decide +kernel
  rcases Bool.or_eq_true_iff.mp starts with isUnderscore | isStart
  · rw [eq_of_beq isUnderscore]
    decide +kernel
  · have begun : holdsFrom false identifierStartChanges c.toNat = true := by rw [holdsFrom_eq, isStart]; rfl
    have held := holdsFrom_of_implies implied begun
    rwa [holdsFrom_eq, Bool.false_xor] at held

end Companion.Text
