import Companion.Proofs.Syntax.Results
import Companion.Proofs.Syntax.Words

set_option autoImplicit false

namespace Companion.Syntax

open Companion.Syntax.Parser

variable {α β : Type}

/-- What a parser finds among words has a property. -/
def Finds (parser : Parser α) (holds : α → Prop) : Prop :=
  ∀ before value after, Tree.AllWorded before.trees → parser before = .ok (value, after) → holds value

namespace Finds

variable {holds : β → Prop}

theorem of_gives {parser : Parser β} (gives : Gives parser holds) : Finds parser holds :=
  fun _ _ _ _ read => gives _ _ _ read

theorem mono {parser : Parser β} {more : β → Prop} (finds : Finds parser holds)
    (implies : ∀ value, holds value → more value) : Finds parser more :=
  fun _ _ _ worded read => implies _ (finds _ _ _ worded read)

theorem pure {value : β} (held : holds value) : Finds (pure value) holds :=
  of_gives (.pure held)

/-- What the second of two parsers finds, given what the first finds; what is left for the second is worded since the
first takes from the front. -/
theorem bind {first : Parser α} {next : α → Parser β} {met : α → Prop} (shortens : Shortens first)
    (finds : Finds first met) (nextFinds : ∀ value, met value → Finds (next value) holds) :
    Finds (first >>= next) holds := fun before result after worded read => by
  obtain ⟨value, middle, begun, rest⟩ := bind_ok read
  have left := worded.suffix (shortens _ _ _ begun)
  exact nextFinds _ (finds _ _ _ worded begun) _ _ _ left rest

theorem behind {first : Parser α} {next : α → Parser β} (shortens : Shortens first)
    (nextFinds : ∀ value, Finds (next value) holds) : Finds (first >>= next) holds :=
  have anything : Finds first fun _ => True := fun _ _ _ _ _ => trivial
  bind shortens anything fun value _ => nextFinds value

theorem choose {look : Look} {yes no : Parser β} (finds : Finds yes holds) (otherFinds : Finds no holds) :
    Finds (do if ← sees look then yes else no) holds := by
  refine behind (.sees look) fun seen => ?_
  split
  · exact finds
  · exact otherFinds

theorem identifier : Finds identifier IsWord := fun before _ _ worded read => by
  unfold Parser.identifier Parser.noneOf at read
  split at read
  · rename_i trees
    split at read
    · contradiction
    · cases read
      rw [trees] at worded
      exact worded.1
  · contradiction

theorem anyWord : Finds anyWord IsWord := fun before _ _ worded read => by
  unfold Parser.anyWord Parser.missing at read
  split at read
  · rename_i trees
    cases read
    rw [trees] at worded
    exact worded.1
  · contradiction

theorem group {body : Parser β} (delimiter : Delimiter) (finds : Finds body holds) :
    Finds (group delimiter body) holds := fun before _ _ worded read => by
  unfold Parser.group Parser.noneOf at read
  split at read
  · rename_i trees
    rw [trees] at worded
    split at read
    · split at read
      · contradiction
      · rename_i inside
        cases read
        have bodyWorded : Tree.AllWorded _ := (Tree.Worded.eq_2 ..).mp worded.1
        exact finds _ _ _ bodyWorded inside
    · contradiction
  · contradiction

theorem collectWithin (count : Nat) {step : Parser (Option β)} (shortens : Shortens step)
    (finds : Finds step fun found => ∀ value, found = some value → holds value) :
    Finds (collectWithin count step) fun values => ∀ value ∈ values, holds value := by
  induction count with
  | zero => exact pure (by simp)
  | succ count ih =>
      unfold Parser.collectWithin
      refine bind shortens finds fun found held => ?_
      cases found with
      | none => exact pure (by simp)
      | some value =>
          refine bind (.collectWithin count shortens) ih fun others othersHeld => pure ?_
          intro other member
          obtain rfl | member := List.mem_cons.mp member
          · exact held other rfl
          · exact othersHeld other member

theorem itemsUntil (stop : Look) {item : Parser β} (shortens : Shortens item) (finds : Finds item holds) :
    Finds (itemsUntil stop item) fun values => ∀ value ∈ values, holds value := by
  unfold Parser.itemsUntil
  have step : Shortens (do
      if ← sees stop then return none
      return some (← item) : Parser (Option β)) := by
    grind
  refine fun before _ _ worded read => collectWithin _ step ?_ before _ _ worded read
  refine choose (pure (by simp)) (bind shortens finds fun value held => pure ?_)
  intro other same
  cases same
  exact held

theorem captured {parser : Parser β} (finds : Finds parser holds) : Finds (captured parser) fun found => holds found.1 :=
    fun before _ _ worded read => by
  unfold Parser.captured at read
  split at read
  · rename_i found after begun
    cases read
    exact finds { before with written := [] } _ _ worded begun
  · contradiction

theorem piecesWithin (separation : Separation) {item : Parser β} (shortens : Shortens item) (finds : Finds item holds)
    (count : Nat) : Finds (piecesWithin separation item count) fun found => ∀ piece ∈ found, holds piece.value := by
  induction count with
  | zero => exact pure (by simp)
  | succ count ih =>
      unfold Parser.piecesWithin
      refine choose (pure (by simp)) (bind (.captured shortens) (captured finds) fun found held => ?_)
      refine choose (behind (.unwritten (.sign _)) fun _ => ?_) (pure (by simpa using held))
      refine bind (.piecesWithin _ shortens _) ih fun others othersHeld => pure ?_
      intro piece member
      obtain rfl | member := List.mem_cons.mp member
      · exact held
      · exact othersHeld piece member

theorem separated (separation : Separation) {item : Parser β} (shortens : Shortens item) (finds : Finds item holds) :
    Finds (separated separation item) fun values => ∀ value ∈ values, holds value := by
  unfold Parser.separated
  refine bind (.pieces _ shortens) (fun _ _ _ worded read => piecesWithin _ shortens finds _ _ _ _ worded read) ?_
  refine fun found held => behind (.writeAll _) fun _ => pure ?_
  intro value member
  obtain ⟨piece, isPiece, rfl⟩ := List.mem_map.mp member
  exact held piece isPiece

end Finds

end Companion.Syntax
