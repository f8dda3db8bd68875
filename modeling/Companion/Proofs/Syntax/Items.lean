import Companion.Proofs.Syntax.TypeNames

set_option autoImplicit false

namespace Companion.Syntax

open Companion.Syntax.Parser

/-- Whether a member has a word for its name, if it has a name, and that is an identifier or the blank; and the names in its
type can stand there. -/
structure Member.Worded (member : Member) : Prop where
  word : ∀ name, member.name = some name → IsWord name
  free : ∀ name, member.name = some name → name = "_" ∨ name ∉ Look.keywords
  type : member.type.Sound

namespace Item

mutual

/-- Whether an item has a word for its name if it is a struct or a module, and all members and items inside it have,
too. -/
def Worded : Item → Prop
  | record _ name _ members => IsWord name ∧ ∀ member ∈ members, member.Worded
  | module _ name content => IsWord name ∧ AllWorded content
  | named .. | implementation .. | other => True

/-- Whether the structs and modules among several items have words for their names. -/
def AllWorded : List Item → Prop
  | [] => True
  | item :: items => Worded item ∧ AllWorded items

end

theorem allWorded_iff {items : List Item} : AllWorded items ↔ ∀ item ∈ items, Worded item := by
  induction items with
  | nil => simp [AllWorded]
  | cons item items ih => simp [AllWorded, ih]

end Item

def ItemBody.Worded : ItemBody → Prop
  | record name _ members => IsWord name ∧ ∀ member ∈ members, member.Worded
  | module name content _ => IsWord name ∧ Item.AllWorded content
  | named .. | implementation .. | other | kept => True

theorem ItemBody.Contentless.worded {body : ItemBody} (contentless : body.Contentless) : body.Worded := by
  cases body <;> trivial

theorem ItemBody.Worded.item {body : ItemBody} (worded : body.Worded) (outer : List Attribute) (place : Position) :
    (body.item outer place).Worded := by
  cases body <;> trivial

namespace Finds

variable {g : Grammar}

theorem contentless {parser : Parser ItemBody} (gives : Gives parser ItemBody.Contentless) :
    Finds parser ItemBody.Worded :=
  (of_gives gives).mono fun _ none => none.worded

theorem moduleItem (shortens : Shortens g.item) (finds : Finds g.item Item.Worded) :
    Finds (moduleItem g) ItemBody.Worded := by
  unfold Syntax.moduleItem
  have content : ∀ name, IsWord name → Finds (do
      let inner ← innerAttributes g
      let content ← Parser.itemsUntil Look.atEnd g.item
      return .module name content inner) ItemBody.Worded := fun name isWord =>
    behind (.innerAttributes g) fun _ => bind (.itemsUntil _ shortens) (itemsUntil _ shortens finds) fun items held =>
      pure ⟨isWord, Item.allWorded_iff.mpr held⟩
  have rest : ∀ name, IsWord name → Finds (do
      if ← sees (Look.sign ";") then
        sign ";"
        return .module name [] []
      if ← sees (Look.group .brace) then
        Parser.group .brace do
          let inner ← innerAttributes g
          let content ← Parser.itemsUntil Look.atEnd g.item
          return .module name content inner
      else Parser.expectedOneOf [.sign ";", .group .brace]) ItemBody.Worded := fun name isWord =>
    choose (behind (.sign _) fun _ => pure ⟨isWord, trivial⟩)
      (choose (group _ (content name isWord)) (of_gives (.expectedOneOf _)))
  refine behind (.optionalWord "unsafe") fun _ => behind (.word "mod") fun _ => behind (.sees _) fun isTry => ?_
  split
  · exact bind .anyWord anyWord rest
  · exact bind .identifier identifier rest

theorem namedMember (finds : ∀ several, Finds (g.type several) (·.type.Sound)) (depth : Nat) :
    Finds (namedMember g depth) Member.Worded := by
  cases depth with
  | zero => exact of_gives (.of_fails fun _ => ⟨_, rfl⟩)
  | succ depth =>
      unfold Syntax.namedMember
      have named : ∀ name, IsWord name → (name = "_" ∨ name ∉ Look.keywords) → ∀ attributes (form : TypeForm) place,
          form.type.Sound → Member.Worded ⟨attributes, some name, form.type, place⟩ :=
        fun name isWord free _ form _ sound =>
          ⟨fun other same => Option.some.inj same ▸ isWord, fun other same => Option.some.inj same ▸ free, sound⟩
      refine behind .place fun place => behind (.outerAttributes g) fun attributes => behind .visibility fun _ =>
        whenSeen ?_ ?_
      · intro before value after isBlank worded read
        obtain ⟨name, middle, begun, rest⟩ := bind_ok read
        obtain ⟨_, trees⟩ := anyWord_ok begun
        have blank : name = "_" := by simpa [Look.word, trees] using isBlank
        have isWord := anyWord _ _ _ worded begun
        have typed : ∀ parser : Parser TypeForm, Finds parser (·.type.Sound) → Finds (do
            let form ← parser
            return ⟨attributes, some name, form.type, place⟩) Member.Worded := fun parser sound =>
          gathered sound fun form isSound => named name isWord (.inl blank) attributes form place isSound
        refine (behind (.sign _) fun _ => behind (.sees _) fun _ => ?_ : Finds _ Member.Worded) middle value after
          (worded.suffix (Shortens.anyWord _ _ _ begun)) rest
        split
        · exact typed _ (of_gives (gives_spelledType _ _))
        · exact typed _ (finds true)
      · refine bind .identifier freeIdentifier fun name isFree => behind (.sign _) fun _ => ?_
        exact gathered (finds true) fun form sound => named name isFree.1 (.inr isFree.2) attributes form place sound

theorem parenthesisMembers (shortens : g.Shortens) (finds : ∀ several, Finds (g.type several) (·.type.Sound)) :
    Finds (parenthesisMembers g) fun members => ∀ member ∈ members, member.Worded := by
  have unnamed : Finds (positionalMember g) Member.Worded := by
    unfold Syntax.positionalMember
    exact behind .place fun _ => behind (.outerAttributes g) fun _ => behind .visibility fun _ =>
      gathered (finds true) fun form sound => ⟨by simp, by simp, sound⟩
  exact group _ (separated _ (.positionalMember shortens) unnamed)

theorem braceMembers (shortens : g.Shortens) (finds : ∀ several, Finds (g.type several) (·.type.Sound)) :
    Finds (braceMembers g) fun members => ∀ member ∈ members, member.Worded :=
  fun before _ _ worded read =>
    group _ (separated _ (.namedMember shortens _) (namedMember finds _)) before _ _ worded read

theorem recordBody (shortens : g.Shortens) (finds : ∀ several, Finds (g.type several) (·.type.Sound)) :
    Finds (recordBody g) fun members => ∀ member ∈ members, member.Worded := by
  unfold Syntax.recordBody
  have none : ∀ member ∈ ([] : List Member), member.Worded := by simp
  refine behind (.clauses shortens) fun early => ?_
  split
  all_goals
    refine behind (.sees _) fun _ => ?_
    split
    · refine bind (.group _ _) (parenthesisMembers shortens finds) fun members worded => behind (.clauses shortens) fun _ => ?_
      exact choose (behind (.sign _) fun _ => pure worded) (of_gives (.expectedOneOf _))
    · refine choose (braceMembers shortens finds) (choose (behind (.sign _) fun _ => pure none) ?_)
      exact of_gives (.expectedOneOf _)

theorem record (shortens : g.Shortens) (finds : ∀ several, Finds (g.type several) (·.type.Sound)) :
    Finds (record g) fun found => IsWord found.1 ∧ ∀ member ∈ found.2.2, member.Worded := by
  unfold Syntax.record
  exact behind (.word "struct") fun _ => bind .identifier identifier fun _ isWord =>
    behind (.parameters shortens) fun _ => bind (.recordBody shortens) (recordBody shortens finds) fun _ worded =>
      pure ⟨isWord, worded⟩

theorem exemptItem (shortens : g.Shortens) (finds : Finds g.item Item.Worded) (visible : Option Position) :
    Finds (exemptItem g visible) ItemBody.Worded := by
  unfold Syntax.exemptItem
  refine behind .get fun stream => ?_
  simp only
  split
  · exact contentless (.traitItem g)
  · split
    · exact contentless (.implementationItem g _)
    · split
      · cases visible with
        | none => exact contentless (.foreignItem g)
        | some place => exact of_gives (.complain _ _)
      · split
        · exact moduleItem shortens.item finds
        · exact behind (.word "unsafe") fun _ => of_gives (.expectedOneOf _)

theorem itemBody (shortens : g.Shortens) (types : ∀ several, Finds (g.type several) (·.type.Sound))
    (finds : Finds g.item Item.Worded) (visible : Option Position) :
    Finds (itemBody g visible) ItemBody.Worded := by
  unfold Syntax.itemBody
  refine choose (contentless (.functionItem g)) ?_
  refine choose (contentless (.externItem g visible)) ?_
  refine choose (contentless .importItem) ?_
  refine choose (contentless (.staticItem g)) ?_
  refine choose (contentless (.constantItem g)) ?_
  refine choose (exemptItem shortens finds visible) ?_
  refine choose (moduleItem shortens.item finds) ?_
  refine choose (contentless (.typeItem g)) ?_
  refine choose (bind (.record shortens) (record shortens types) fun found worded => pure worded) ?_
  refine choose (behind (.enumeration shortens) fun _ => pure trivial) ?_
  refine choose (behind (.union shortens) fun _ => pure trivial) ?_
  refine choose (contentless (.traitOrAlias g)) ?_
  refine choose (contentless (.traitItem g)) ?_
  refine choose (contentless (.implementationItem g _)) ?_
  refine choose (contentless .ruleDefinition) ?_
  refine behind (.sees _) fun seen => ?_
  split
  · exact behind (.ruleCall true) fun _ => pure trivial
  · exact of_gives (.expectedOneOf _)

theorem item (shortens : g.Shortens) (types : ∀ several, Finds (g.type several) (·.type.Sound))
    (finds : Finds g.item Item.Worded) : Finds (item g) Item.Worded := by
  unfold Syntax.item
  refine behind .get fun begun => behind .place fun place => behind (.outerAttributes g) fun outer =>
    behind .place fun visibilityPlace => behind .visibility fun visible => ?_
  refine bind (.itemBody shortens _) (itemBody shortens types finds _) fun body worded => ?_
  split
  · exact behind (.keepSince begun) fun _ => pure (worded.item outer place)
  · exact pure (worded.item outer place)

end Finds

/-- Items that the grammar reads among words are worded. The induction is on the depth of modules. -/
theorem finds_item (depth : Nat) : Finds (grammar depth).item Item.Worded := by
  induction depth with
  | zero => exact .of_gives (.of_fails fun _ => ⟨_, rfl⟩)
  | succ depth ih => exact .item (shortens_grammar depth) (finds_type depth) ih

theorem finds_fileItems (depth : Nat) : Finds (fileItems (grammar depth)) Item.AllWorded := by
  have reads : (grammar depth).Shortens := shortens_grammar depth
  have items : Finds (Parser.itemsUntil Look.atEnd (item (grammar depth))) fun items => ∀ item ∈ items, item.Worded :=
    .itemsUntil _ (.item reads) (.item reads (finds_type depth) (finds_item depth))
  exact .behind (.innerAttributes _) fun _ => items.mono fun _ => Item.allWorded_iff.mpr

/-- The structs and modules of a file have words for their names. -/
theorem allWorded_readFile {text : String} {items : List Item} (read : readFile text = .ok items) :
    Item.AllWorded items := by
  obtain ⟨trees, after, divided, begun⟩ := items_of_readFile read
  exact finds_fileItems _ _ _ _ (allWorded_treesFrom divided) begun

end Companion.Syntax
