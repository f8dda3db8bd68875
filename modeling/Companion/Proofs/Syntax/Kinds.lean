import Companion.Marker
import Companion.Proofs.Syntax.Places
import Companion.Proofs.Syntax.Results

/-!
Whether an item is a struct is seen from its tokens: behind the attributes and the visibility, the word `struct` stands
next. So it does not depend on the places of the tokens, nor on the depth up to which the rules were unfolded.
-/

set_option autoImplicit false

namespace Companion.Syntax

open Companion.Syntax.Parser
open Companion.Syntax.Tree (unplaced allUnplaced)

@[simp] theorem Look.word_unplaced (text : String) (trees : List Tree) :
    Look.word text (allUnplaced trees) = Look.word text trees := by
  cases trees with
  | nil => rfl
  | cons tree others => cases tree <;> rfl

theorem Look.eq_of_word {text other : String} {trees : List Tree} (isText : Look.word text trees = true)
    (isOther : Look.word other trees = true) : text = other := by
  unfold Look.word at isText isOther
  split at isText
  · exact (eq_of_beq isText).symm.trans (eq_of_beq isOther)
  · contradiction

/-- What is left behind the attributes in front of an item: each takes two trees, a sign and a group. -/
def behindAttributes : List Tree → List Tree
  | .sign '#' _ _ :: _ :: rest => behindAttributes rest
  | trees => trees

def behindVisibility : List Tree → List Tree
  | .word "pub" _ :: rest =>
      if Look.group .parenthesis rest && (visibility.limitsToModule rest || visibility.limitsToPath rest) then rest.tail
      else rest
  | trees => trees

theorem exists_of_hash {trees : List Tree} (hash : Look.sign "#" trees = true) :
    ∃ joint place rest, trees = .sign '#' joint place :: rest := by
  match trees with
  | .sign found joint place :: rest =>
      have same : (found == '#' && '#' != '\'') = true := hash
      obtain rfl : found = '#' := by simpa using same
      exact ⟨joint, place, rest, rfl⟩
  | .word .. :: _ | .lifetime .. :: _ | .literal .. :: _ | .group .. :: _ | [] => contradiction

theorem behindAttributes_of_other {trees : List Tree} (other : Look.sign "#" trees = false) :
    behindAttributes trees = trees := by
  unfold behindAttributes
  split
  · contradiction
  · rfl

theorem outerAttribute_takes {g : Grammar} {before after : Stream} {mark : Attribute}
    (read : outerAttribute g before = .ok (mark, after)) :
    ∃ joint place group, before.trees = .sign '#' joint place :: group :: after.trees := by
  obtain ⟨_, middle, sign, group⟩ := bind_ok read
  unfold Parser.sign at sign
  split at sign
  · rename_i hash
    cases sign
    obtain ⟨joint, place, rest, trees⟩ := exists_of_hash hash
    unfold Parser.group Parser.noneOf at group
    split at group
    · rename_i delimiter body opened closed others same
      refine ⟨joint, place, .group delimiter body opened closed, ?_⟩
      have one : "#".length = 1 := rfl
      have left : rest = .group delimiter body opened closed :: others := by
        simpa [trees, one] using same
      split at group
      · split at group
        · contradiction
        · cases group
          rw [trees, left]
      · contradiction
    · contradiction
  · contradiction

/-- A loop over attributes takes all of them, if its bound is more than the number of trees. -/
theorem collectWithin_attributes_takes {g : Grammar} {count : Nat} {before after : Stream} {marks : List Attribute}
    (enough : before.trees.length < count)
    (read : collectWithin count (do
      if ← sees fun trees => !Look.sign "#" trees then return none
      return some (← outerAttribute g)) before = .ok (marks, after)) :
    after.trees = behindAttributes before.trees := by
  induction count generalizing before marks with
  | zero => omega
  | succ count ih =>
      unfold collectWithin at read
      obtain ⟨found, middle, step, rest⟩ := bind_ok read
      obtain ⟨stops, ended⟩ | ⟨goesOn, taken⟩ := choose_ok step
      · cases ended
        cases rest
        rw [behindAttributes_of_other (by simpa using stops)]
      · obtain ⟨mark, marked, isMark, ended⟩ := bind_ok taken
        cases ended
        obtain ⟨others, last, more, ended⟩ := bind_ok rest
        cases ended
        obtain ⟨joint, place, group, trees⟩ := outerAttribute_takes isMark
        have shorter : middle.trees.length < count := by
          rw [trees] at enough
          simp only [List.length_cons] at enough
          omega
        rw [ih shorter more, trees]
        rfl

theorem outerAttributes_takes {g : Grammar} {before after : Stream} {marks : List Attribute}
    (read : outerAttributes g before = .ok (marks, after)) : after.trees = behindAttributes before.trees :=
  collectWithin_attributes_takes (Nat.lt_succ_self _) read

theorem behindAttributes_unplaced (trees : List Tree) :
    allUnplaced (behindAttributes trees) = behindAttributes (allUnplaced trees) := by
  induction trees using behindAttributes.induct with
  | case1 joint place group rest ih => simpa [behindAttributes, allUnplaced, unplaced] using ih
  | case2 trees other =>
      have unplacedOther : ∀ joint place group rest, allUnplaced trees ≠ .sign '#' joint place :: group :: rest := by
        intro joint place group rest same
        cases trees with
        | nil => simp [allUnplaced] at same
        | cons first others =>
            cases others with
            | nil => simp [allUnplaced] at same
            | cons second further =>
                cases first with
                | sign found joint place =>
                    obtain rfl : found = '#' := by simp_all [allUnplaced, unplaced]
                    exact other joint place second further rfl
                | word | lifetime | literal | group => simp [allUnplaced, unplaced] at same
      rw [behindAttributes.eq_2 _ other, behindAttributes.eq_2 _ unplacedOther]

theorem word_takes {text : String} {before after : Stream} {value : Unit}
    (read : Parser.word text before = .ok (value, after)) : ∃ place, before.trees = .word text place :: after.trees := by
  unfold Parser.word Parser.noneOf at read
  split at read
  · rename_i found place rest trees
    split at read
    · rename_i same
      cases read
      exact ⟨place, by rw [trees, eq_of_beq same]⟩
    · contradiction
  · contradiction

theorem group_takes {α : Type} {delimiter : Delimiter} {body : Parser α} {before after : Stream} {value : α}
    (read : Parser.group delimiter body before = .ok (value, after)) : after.trees = before.trees.tail := by
  unfold Parser.group Parser.noneOf at read
  split at read
  · rename_i trees
    split at read
    · split at read
      · contradiction
      · cases read
        rw [trees]
        rfl
    · contradiction
  · contradiction

theorem behindVisibility_of_other {trees : List Tree} (other : Look.word "pub" trees = false) :
    behindVisibility trees = trees := by
  unfold behindVisibility
  split
  · contradiction
  · rfl

theorem visibility_takes {before after : Stream} {visible : Bool} (read : visibility before = .ok (visible, after)) :
    after.trees = behindVisibility before.trees := by
  unfold visibility at read
  obtain ⟨isPublic, shown⟩ | ⟨notPublic, ended⟩ := choose_ok read
  · obtain ⟨_, middle, pub, rest⟩ := bind_ok shown
    obtain ⟨place, trees⟩ := word_takes pub
    have behind : behindVisibility before.trees =
        if Look.group .parenthesis middle.trees &&
          (visibility.limitsToModule middle.trees || visibility.limitsToPath middle.trees) then middle.trees.tail
        else middle.trees := by
      rw [trees]
      rfl
    rw [behind]
    obtain ⟨isGroup, limited⟩ | ⟨noGroup, ended⟩ := choose_ok rest
    · obtain ⟨toModule, limit⟩ | ⟨notToModule, others⟩ := choose_ok limited
      · obtain ⟨_, last, group, ended⟩ := bind_ok limit
        cases ended
        simp [isGroup, toModule, group_takes group]
      · obtain ⟨toPath, limit⟩ | ⟨notToPath, ended⟩ := choose_ok others
        · obtain ⟨_, last, group, ended⟩ := bind_ok limit
          cases ended
          simp [isGroup, toPath, group_takes group]
        · cases ended
          simp [notToModule, notToPath]
    · cases ended
      simp [noGroup]
  · cases ended
    exact (behindVisibility_of_other notPublic).symm

/-- Whether the parenthesis behind `pub` belongs to it does not depend on places. -/
theorem limits_unplaced (trees : List Tree) :
    (Look.group .parenthesis (allUnplaced trees) &&
        (visibility.limitsToModule (allUnplaced trees) || visibility.limitsToPath (allUnplaced trees))) =
      (Look.group .parenthesis trees && (visibility.limitsToModule trees || visibility.limitsToPath trees)) := by
  match trees with
  | .group _ [] _ _ :: _ => rfl
  | .group _ [tree] _ _ :: _ => cases tree <;> rfl
  | .group _ (tree :: _ :: _) _ _ :: _ => cases tree <;> rfl
  | .word .. :: _ | .sign .. :: _ | .lifetime .. :: _ | .literal .. :: _ | [] => rfl

theorem behindVisibility_unplaced (trees : List Tree) :
    allUnplaced (behindVisibility trees) = behindVisibility (allUnplaced trees) := by
  cases isPublic : Look.word "pub" trees with
  | false =>
      rw [behindVisibility_of_other isPublic, behindVisibility_of_other (by simpa using isPublic)]
  | true =>
      match trees with
      | .word found place :: rest =>
          obtain rfl : found = "pub" := by simpa [Look.word] using isPublic
          simp only [behindVisibility, allUnplaced, unplaced, limits_unplaced]
          split
          · cases rest <;> rfl
          · rfl
      | .sign .. :: _ | .lifetime .. :: _ | .literal .. :: _ | .group .. :: _ | [] => contradiction

def ItemBody.isRecord : ItemBody → Bool
  | record .. => true
  | named .. | implementation .. | module .. | other | kept => false

theorem ItemBody.isRecord_item (body : ItemBody) (outer : List Attribute) (place : Position) :
    Marker.isRecord (body.item outer place) = body.isRecord := by
  cases body <;> rfl

def GivesOther (parser : Parser ItemBody) : Prop :=
  Gives parser fun body => body.isRecord = false

namespace GivesOther

variable {g : Grammar}

theorem of_contentless {parser : Parser ItemBody} (contentless : Gives parser ItemBody.Contentless) :
    GivesOther parser := fun before body after read => by
  have none := contentless before body after read
  cases body <;> first | rfl | exact none.elim

theorem moduleItem (g : Grammar) : GivesOther (moduleItem g) := by
  unfold Syntax.moduleItem
  refine Gives.behind fun _ => .behind fun _ => .behind fun _ => ?_
  split
  all_goals
    refine Gives.behind fun name => .behind fun _ => ?_
    split
    · exact .behind fun _ => .pure rfl
    · refine Gives.behind fun _ => ?_
      split
      · exact .group _ (.behind fun _ => .behind fun _ => .pure rfl)
      · exact .expectedOneOf _

theorem exemptItem (g : Grammar) (visible : Option Position) : GivesOther (exemptItem g visible) := by
  unfold Syntax.exemptItem
  refine Gives.behind fun stream => ?_
  simp only
  split
  · exact of_contentless (.traitItem g)
  · split
    · exact of_contentless (.implementationItem g _)
    · split
      · cases visible with
        | none => exact of_contentless (.foreignItem g)
        | some place => exact .complain _ _
      · split
        · exact moduleItem g
        · exact .behind fun _ => .expectedOneOf _

end GivesOther

/-- A choice gives no struct at a stream if neither parser does, as far as it runs there. -/
theorem other_of_choose {look : Look} {yes no : Parser ItemBody} {before after : Stream} {body : ItemBody}
    (read : (do if ← sees look then yes else no : Parser ItemBody) before = .ok (body, after))
    (other : look before.trees = true → GivesOther yes)
    (otherwise : no before = .ok (body, after) → body.isRecord = false) : body.isRecord = false := by
  obtain ⟨seen, rule⟩ | ⟨_, rest⟩ := choose_ok read
  · exact other seen _ _ _ rule
  · exact otherwise rest

theorem not_word_of_struct {trees : List Tree} (isStruct : Look.word "struct" trees = true) (text : String)
    (differs : text ≠ "struct") : Look.word text trees = false := by
  cases isText : Look.word text trees with
  | false => rfl
  | true => exact absurd (Look.eq_of_word isText isStruct) differs

theorem not_startsSignature_of_struct {trees : List Tree} (isStruct : Look.word "struct" trees = true) :
    startsSignature false trees = false := by
  simp [startsSignature, dropWord, dropConvention, not_word_of_struct isStruct]

/-- Where the word `struct` stands next, the rule of structs is the first one that applies. -/
theorem isRecord_of_struct {g : Grammar} {visible : Option Position} {before after : Stream} {body : ItemBody}
    (isStruct : Look.word "struct" before.trees = true) (read : itemBody g visible before = .ok (body, after)) :
    body.isRecord = true := by
  unfold itemBody at read
  have behindFunctions := skip_ok read (not_startsSignature_of_struct isStruct)
  have behindLibraries := skip_ok behindFunctions (not_word_of_struct isStruct _ (by decide))
  have behindImports := skip_ok behindLibraries (not_word_of_struct isStruct _ (by decide))
  have behindValues := skip_ok (skip_ok behindImports (not_word_of_struct isStruct _ (by decide)))
    (not_word_of_struct isStruct _ (by decide))
  have behindExempt := skip_ok behindValues (not_word_of_struct isStruct _ (by decide))
  have behindModules := skip_ok behindExempt (not_word_of_struct isStruct _ (by decide))
  have behindTypes := skip_ok behindModules (not_word_of_struct isStruct _ (by decide))
  obtain ⟨_, rule⟩ | ⟨noStruct, _⟩ := choose_ok behindTypes
  · obtain ⟨_, _, _, ended⟩ := bind_ok rule
    cases ended
    rfl
  · rw [isStruct] at noStruct
    contradiction

/-- Where another tree stands next, the rule of structs does not apply. -/
theorem not_isRecord_of_other {g : Grammar} {visible : Option Position} {before after : Stream} {body : ItemBody}
    (isOther : Look.word "struct" before.trees = false) (read : itemBody g visible before = .ok (body, after)) :
    body.isRecord = false := by
  unfold itemBody at read
  refine other_of_choose read (fun _ => .of_contentless (.functionItem g)) fun read => ?_
  refine other_of_choose read (fun _ => .of_contentless (.externItem g visible)) fun read => ?_
  refine other_of_choose read (fun _ => .of_contentless .importItem) fun read => ?_
  refine other_of_choose read (fun _ => .of_contentless (.staticItem g)) fun read => ?_
  refine other_of_choose read (fun _ => .of_contentless (.constantItem g)) fun read => ?_
  refine other_of_choose read (fun _ => .exemptItem g visible) fun read => ?_
  refine other_of_choose read (fun _ => .moduleItem g) fun read => ?_
  refine other_of_choose read (fun _ => .of_contentless (.typeItem g)) fun read => ?_
  refine other_of_choose read (fun isStruct => by rw [isOther] at isStruct; contradiction) fun read => ?_
  refine other_of_choose read (fun _ => Gives.behind fun _ => .pure rfl) fun read => ?_
  refine other_of_choose read (fun _ => Gives.behind fun _ => .pure rfl) fun read => ?_
  refine other_of_choose read (fun _ => .of_contentless (.traitOrAlias g)) fun read => ?_
  refine other_of_choose read (fun _ => .of_contentless (.traitItem g)) fun read => ?_
  refine other_of_choose read (fun _ => .of_contentless (.implementationItem g _)) fun read => ?_
  refine other_of_choose read (fun _ => .of_contentless .ruleDefinition) fun read => ?_
  have last : GivesOther (do
      if visible.isNone && (← sees startsRule) then
        ruleCall true
        return .other
      else expectedOneOf (startsOfItem ++ if visible.isNone then ruleStarts else [])) := by
    refine Gives.behind fun seen => ?_
    split
    · exact .behind fun _ => .pure rfl
    · exact .expectedOneOf _
  exact last _ _ _ read

/-- An item is read in three steps: its attributes, its visibility and its body. -/
theorem exists_of_item {g : Grammar} {before after : Stream} {value : Item}
    (read : item g before = .ok (value, after)) :
    ∃ outer marked visible shown body last, outerAttributes g before = .ok (outer, marked) ∧
      visibility marked = .ok (visible, shown) ∧
      itemBody g (if visible then some marked.place else none) shown = .ok (body, last) ∧
      value = body.item outer before.place := by
  unfold item at read
  obtain ⟨_, _, ⟨⟩, read⟩ := bind_ok read
  obtain ⟨_, _, ⟨⟩, read⟩ := bind_ok read
  obtain ⟨outer, marked, attributes, read⟩ := bind_ok read
  obtain ⟨_, _, ⟨⟩, read⟩ := bind_ok read
  obtain ⟨visible, shown, isVisible, read⟩ := bind_ok read
  obtain ⟨body, last, isBody, read⟩ := bind_ok read
  refine ⟨outer, marked, visible, shown, body, last, attributes, isVisible, isBody, ?_⟩
  split at read
  · obtain ⟨_, _, ⟨⟩, ended⟩ := bind_ok read
    cases ended
    rfl
  · cases read
    rfl

/-- An item is a struct exactly if the word `struct` stands next behind its attributes and its visibility. -/
theorem item_isRecord {g : Grammar} {before after : Stream} {value : Item} (read : item g before = .ok (value, after)) :
    Marker.isRecord value = Look.word "struct" (behindVisibility (behindAttributes before.trees)) := by
  obtain ⟨outer, marked, visible, shown, body, last, attributes, isVisible, isBody, rfl⟩ := exists_of_item read
  rw [ItemBody.isRecord_item, ← outerAttributes_takes attributes, ← visibility_takes isVisible]
  cases isStruct : Look.word "struct" shown.trees with
  | true => exact isRecord_of_struct isStruct isBody
  | false => exact not_isRecord_of_other isStruct isBody

/-- Trees that differ in their places only are read alike, as a struct or as something else. -/
theorem item_isRecord_congr {g h : Grammar} {before after other last : Stream} {value found : Item}
    (read : item g before = .ok (value, after)) (otherRead : item h other = .ok (found, last))
    (same : allUnplaced (behindAttributes before.trees) = allUnplaced (behindAttributes other.trees)) :
    Marker.isRecord value = Marker.isRecord found := by
  rw [item_isRecord read, item_isRecord otherRead, ← Look.word_unplaced, behindVisibility_unplaced, same,
    ← behindVisibility_unplaced, Look.word_unplaced]

end Companion.Syntax
