import Companion.Proofs.Syntax.Shortening

set_option autoImplicit false

namespace Companion.Syntax

open Companion.Syntax.Parser

variable {α β : Type}

def Gives (parser : Parser α) (holds : α → Prop) : Prop :=
  ∀ before value after, parser before = .ok (value, after) → holds value

namespace Gives

variable {holds : β → Prop}

@[grind ←] theorem pure {value : β} (held : holds value) : Gives (pure value) holds := fun _ _ _ read => by
  cases read
  exact held

theorem of_fails {parser : Parser β} (fails : ∀ stream, ∃ reason, parser stream = .error reason) :
    Gives parser holds := fun before _ _ read => by
  obtain ⟨reason, failed⟩ := fails before
  simp [failed] at read

@[grind ←] theorem complain (place : Position) (complaint : Complaint) : Gives (complain place complaint) holds :=
  of_fails fun _ => ⟨_, rfl⟩

@[grind ←] theorem expectedOneOf (alternatives : List Alternative) : Gives (expectedOneOf alternatives) holds :=
  of_fails fun _ => ⟨_, rfl⟩

@[grind ←] theorem bind {first : Parser α} {next : α → Parser β}
    (gives : ∀ before value after, first before = .ok (value, after) → Gives (next value) holds) :
    Gives (first >>= next) holds := fun before result after read => by
  obtain ⟨value, middle, begun, rest⟩ := bind_ok read
  exact gives _ _ _ begun _ _ _ rest

theorem behind {first : Parser α} {next : α → Parser β} (gives : ∀ value, Gives (next value) holds) :
    Gives (first >>= next) holds :=
  bind fun _ value _ _ => gives value

@[grind ←] theorem group {body : Parser β} (delimiter : Delimiter) (gives : Gives body holds) :
    Gives (group delimiter body) holds := fun _ _ _ read => by
  unfold Parser.group Parser.noneOf at read
  split at read
  · split at read
    · split at read
      · contradiction
      · rename_i inside
        cases read
        exact gives _ _ _ inside
    · contradiction
  · contradiction

end Gives

/-- A text that is read as a whole is read by the grammar, and nothing of it is left. -/
theorem parse_of_parseAll {parser : Grammar → Parser α} {trees : List Tree} {value : α} {words : List String}
    (read : parseAll parser trees = .ok (value, words)) :
    ∃ after, parser (grammar (enoughDepth trees)) (.ofTrees trees) = .ok (value, after) ∧
      after.leftOver = none ∧ after.trees = [] ∧ after.written.reverse = words := by
  unfold parseAll at read
  split at read
  · contradiction
  · rename_i found stream parsed
    split at read
    · contradiction
    · contradiction
    · rename_i whole nothingLeft
      cases read
      exact ⟨stream, parsed, whole, nothingLeft, rfl⟩

theorem items_of_readFile {text : String} {items : List Item} (read : readFile text = .ok items) :
    ∃ trees after, treesFrom .start (fileBody text.toList) = .ok trees ∧
      fileItems (grammar (enoughDepth trees)) (.ofTrees trees) = .ok (items, after) := by
  unfold readFile treesOf at read
  cases divided : treesFrom .start (fileBody text.toList) with
  | error place => simp [divided, Bind.bind, Except.bind] at read
  | ok trees =>
      cases parsed : parseAll fileItems trees with
      | error reason => simp [divided, parsed, Bind.bind, Except.bind] at read
      | ok found =>
          obtain ⟨after, begun, -⟩ := parse_of_parseAll parsed
          have same : found.1 = items := by
            simpa [divided, parsed, Bind.bind, Except.bind, Pure.pure, Except.pure] using read
          exact ⟨trees, after, rfl, same ▸ begun⟩

def ItemBody.Contentless : ItemBody → Prop
  | record .. | module .. => False
  | named .. | implementation .. | other | kept => True

attribute [grind =] ItemBody.Contentless

namespace Gives

variable {g : Grammar}

@[grind ←] theorem functionItem (g : Grammar) : Gives (functionItem g) ItemBody.Contentless := by
  unfold Syntax.functionItem
  grind

@[grind ←] theorem staticItem (g : Grammar) : Gives (staticItem g) ItemBody.Contentless := by
  unfold Syntax.staticItem
  refine behind fun _ => behind fun _ => behind fun _ => behind fun _ => ?_
  split <;> grind

@[grind ←] theorem constantItem (g : Grammar) : Gives (constantItem g) ItemBody.Contentless := by
  unfold Syntax.constantItem
  grind

@[grind ←] theorem importItem : Gives importItem ItemBody.Contentless := by
  unfold Syntax.importItem
  grind

@[grind ←] theorem libraryItem : Gives libraryItem ItemBody.Contentless := by
  unfold Syntax.libraryItem
  refine behind fun _ => behind fun _ => behind fun _ => ?_
  split <;> grind

@[grind ←] theorem foreignItem (g : Grammar) : Gives (foreignItem g) ItemBody.Contentless := by
  unfold Syntax.foreignItem
  grind

@[grind ←] theorem typeItem (g : Grammar) : Gives (typeItem g) ItemBody.Contentless := by
  unfold Syntax.typeItem
  grind

@[grind ←] theorem traitRest (g : Grammar) (name : String) : Gives (traitRest g name) ItemBody.Contentless := by
  unfold Syntax.traitRest
  grind

@[grind ←] theorem traitItem (g : Grammar) : Gives (traitItem g) ItemBody.Contentless := by
  unfold Syntax.traitItem
  grind

@[grind ←] theorem traitOrAlias (g : Grammar) : Gives (traitOrAlias g) ItemBody.Contentless := by
  unfold Syntax.traitOrAlias
  refine behind fun _ => behind fun _ => behind fun _ => behind fun _ => ?_
  split <;> grind

@[grind ←] theorem implementationItem (g : Grammar) (visible : Bool) :
    Gives (implementationItem g visible) ItemBody.Contentless := by
  unfold Syntax.implementationItem
  refine behind fun _ => behind fun _ => behind fun _ => behind fun _ => ?_
  split
  case' isTrue => refine behind fun _ => ?_
  all_goals
    refine behind fun _ => behind fun _ => behind fun _ => ?_
    split
    case' isTrue => refine behind fun _ => ?_
    all_goals
      refine behind fun _ => behind fun _ => behind fun _ => ?_
      split
      · exact behind fun _ => behind fun _ => behind fun _ => behind fun _ => group _ (by grind)
      · exact behind fun _ => behind fun _ => group _ (by grind)

@[grind ←] theorem ruleDefinition : Gives ruleDefinition ItemBody.Contentless := by
  unfold Syntax.ruleDefinition
  grind

@[grind ←] theorem externItem (g : Grammar) (visible : Option Position) :
    Gives (externItem g visible) ItemBody.Contentless := by
  unfold Syntax.externItem
  grind

end Gives

end Companion.Syntax
