import Companion.Proofs.Source.Findings

/-!
The places of a file at which something can be declared, and the order in which the index visits them. A place is an
address: the number of an item among its siblings, or of a member within a struct, behind the numbers of the modules
around it. What stands at an address is said without the index; the index is then a list of these places.
-/

set_option autoImplicit false

namespace Companion.Index

open Companion.Syntax (Attribute Item ItemKind IsWord)

/-- Where something that can be declared stands among items: an item, a member of a struct, or something inside of a
module. Items and members are counted from zero. -/
inductive Address where
  | item (index : Nat)
  | member (index position : Nat)
  | inside (index : Nat) (rest : Address)
  deriving DecidableEq, Repr

def Address.index : Address → Nat
  | item index | member index _ | inside index _ => index

/-- The order of a file in which what an item contains stands in front of the item. -/
inductive Address.Before : Address → Address → Prop
  | earlier {first second : Address} (lower : first.index < second.index) : Before first second
  | members {index low high : Nat} (lower : low < high) : Before (member index low) (member index high)
  | memberOf (index position : Nat) : Before (member index position) (item index)
  | within {index : Nat} {first second : Address} (before : Before first second) :
      Before (inside index first) (inside index second)
  | contentOf (index : Nat) (rest : Address) : Before (inside index rest) (item index)

/-- What stands at an address: an item, or the member of a struct. -/
inductive Subject where
  | item (item : Item)
  | member (owner : String) (member : Syntax.Member) (position : Nat)

/-- What stands at an address among items, with the names of the modules around it, outermost first. -/
inductive Stands : List Item → Address → List String → Subject → Prop
  | item {items : List Item} {index : Nat} {item : Item} (here : items[index]? = some item) :
      Stands items (.item index) [] (.item item)
  | member {items : List Item} {index position : Nat} {head : Syntax.ItemHead} {name : String} {isGeneric : Bool}
      {members : List Syntax.Member} {member : Syntax.Member}
      (ofStruct : items[index]? = some (.record head name isGeneric members))
      (here : members[position]? = some member) :
      Stands items (.member index position) [] (.member name member position)
  | inside {items content : List Item} {index : Nat} {head : Syntax.ItemHead} {name : String} {rest : Address}
      {modules : List String} {subject : Subject}
      (ofModule : items[index]? = some (.module head name content))
      (stands : Stands content rest modules subject) :
      Stands items (.inside index rest) (name :: modules) subject

namespace Subject

def attributes : Subject → List Attribute
  | item (.record head _ _ _) | item (.named head _ _) | item (.implementation head _) | item (.module head _ _) =>
      head.attributes
  | item .other => []
  | member _ part _ => part.attributes

def place : Subject → Syntax.Position
  | item (.record head _ _ _) | item (.named head _ _) | item (.implementation head _) | item (.module head _ _) =>
      head.place
  | item .other => .start
  | member _ part _ => part.place

/-- The kind of declaration that a subject is; none for the items that are never declared. -/
def kind? : Subject → Option DeclarationKind
  | item (.record ..) => some .classLike
  | item (.named _ .enumeration _) => some .enumeration
  | item (.named _ .union _) => some .union
  | item (.named _ .trait _) => some .interface
  | item (.named _ .function _) => some .function
  | item (.named _ .typeAlias _) => some .typeAlias
  | item (.named _ .constant _) => some .constant
  | item (.named _ .static _) => some .constant
  | item (.implementation ..) => some .implementation
  | item (.module ..) => some .module
  | item .other => none
  | member .. => some .field

/-- The name of a subject, without the mark of a raw identifier: for an implementation the type that it is of, for a
member without a name its position. -/
def name : Subject → String
  | item (.record _ name _ _) | item (.named _ _ name) | item (.module _ name _) => plainName name
  | item (.implementation _ target) => target
  | item .other => ""
  | member _ ⟨_, some name, _, _⟩ _ => plainName name
  | member _ ⟨_, none, _, _⟩ position => "_" ++ toString position

/-- The names that a subject adds to the namespace of its modules: that of the struct, for a member. -/
def owners : Subject → List String
  | item _ => []
  | member owner _ _ => [plainName owner]

def fields : Subject → List Field
  | item (.record _ _ _ members) => Index.fieldsOf members
  | item _ | member .. => []

/-- Whether a subject has an attribute other than documentation whose path ends with a tag. -/
def Carries (subject : Subject) (tag : String) : Prop :=
  ∃ mark ∈ subject.attributes, ¬(mark.absolute = false ∧ mark.names = ["doc"]) ∧ mark.names.getLast? = some tag

end Subject

/-- A declaration of what stands at an address among the items of a file. -/
structure Declares (items : List Item) (space : Namespace) (file : Option FilePath) (address : Address)
    (declaration : Declaration) : Prop where
  subject : ∃ modules subject, Stands items address modules subject ∧ subject.kind? = some declaration.kind ∧
    declaration.name = subject.name ∧
    declaration.space.segments = space.segments ++ modules.map plainName ++ subject.owners ∧
    declaration.location = locationIn file subject.place

namespace Address

/-- Nothing stands in front of itself, so addresses in order are distinct. -/
theorem Before.ne {first second : Address} (before : first.Before second) : first ≠ second := by
  induction before with
  | earlier lower =>
      rintro rfl
      exact Nat.lt_irrefl _ lower
  | members lower =>
      intro same
      cases same
      exact Nat.lt_irrefl _ lower
  | memberOf | contentOf => simp
  | within before ih => simpa using ih

end Address

/-- A place that the index visits, with what it finds there. -/
structure Occurrence where
  address : Address
  modules : List String
  subject : Subject

/-- A place inside of a module, seen from the module. -/
def Occurrence.within (index : Nat) (name : String) (occurrence : Occurrence) : Occurrence :=
  ⟨.inside index occurrence.address, name :: occurrence.modules, occurrence.subject⟩

def memberOccurrences (index : Nat) (owner : String) (members : List Syntax.Member) : List Occurrence :=
  members.zipIdx.map fun (member, position) => ⟨.member index position, [], .member owner member position⟩

mutual

def occurrencesOf (index : Nat) : Item → List Occurrence
  | .record head name isGeneric members =>
      memberOccurrences index name members ++ [⟨.item index, [], .item (.record head name isGeneric members)⟩]
  | .module head name content =>
      (occurrencesFrom 0 content).map (Occurrence.within index name) ++
        [⟨.item index, [], .item (.module head name content)⟩]
  | .named head kind name => [⟨.item index, [], .item (.named head kind name)⟩]
  | .implementation head target => [⟨.item index, [], .item (.implementation head target)⟩]
  | .other => [⟨.item index, [], .item .other⟩]

def occurrencesFrom (start : Nat) : List Item → List Occurrence
  | [] => []
  | item :: items => occurrencesOf start item ++ occurrencesFrom (start + 1) items

end

theorem mem_memberOccurrences {index : Nat} {owner : String} {members : List Syntax.Member} {occurrence : Occurrence} :
    occurrence ∈ memberOccurrences index owner members ↔
      ∃ position member, members[position]? = some member ∧
        ⟨.member index position, [], .member owner member position⟩ = occurrence := by
  simp only [memberOccurrences, List.mem_map, Prod.exists, List.mem_zipIdx_iff_getElem?]
  exact exists_comm

mutual

theorem stands_of_mem_occurrencesOf {whole : List Item} {occurrence : Occurrence} {index : Nat} {item : Item}
    (here : whole[index]? = some item) (visited : occurrence ∈ occurrencesOf index item) :
    Stands whole occurrence.address occurrence.modules occurrence.subject := by
  cases item with
  | record head name isGeneric members =>
      simp only [occurrencesOf, List.mem_append, List.mem_singleton] at visited
      obtain isMember | rfl := visited
      · obtain ⟨position, member, isThere, rfl⟩ := mem_memberOccurrences.mp isMember
        exact .member here isThere
      · exact .item here
  | module head name content =>
      simp only [occurrencesOf, List.mem_append, List.mem_singleton] at visited
      obtain isInside | rfl := visited
      · obtain ⟨inner, isInContent, rfl⟩ := List.mem_map.mp isInside
        exact .inside here (stands_of_mem_occurrencesFrom List.drop_zero isInContent)
      · exact .item here
  | named | implementation | other =>
      simp only [occurrencesOf, List.mem_singleton] at visited
      subst visited
      exact .item here

theorem stands_of_mem_occurrencesFrom {whole : List Item} {occurrence : Occurrence} {start : Nat} {items : List Item}
    (left : whole.drop start = items) (visited : occurrence ∈ occurrencesFrom start items) :
    Stands whole occurrence.address occurrence.modules occurrence.subject := by
  cases items with
  | nil => simp [occurrencesFrom] at visited
  | cons item items =>
      have here : whole[start]? = some item := by
        rw [← List.head?_drop, left, List.head?_cons]
      have others : whole.drop (start + 1) = items := by
        rw [← List.tail_drop, left, List.tail_cons]
      rw [occurrencesFrom, List.mem_append] at visited
      obtain inItem | inOthers := visited
      · exact stands_of_mem_occurrencesOf here inItem
      · exact stands_of_mem_occurrencesFrom others inOthers

end

theorem mem_occurrencesFrom {items : List Item} {start index : Nat} {item : Item} {occurrence : Occurrence}
    (here : items[index]? = some item) (ofItem : occurrence ∈ occurrencesOf (start + index) item) :
    occurrence ∈ occurrencesFrom start items := by
  induction items generalizing start index with
  | nil => simp at here
  | cons first others ih =>
      rw [occurrencesFrom, List.mem_append]
      cases index with
      | zero =>
          obtain rfl : first = item := by simpa using here
          exact .inl ofItem
      | succ index =>
          have next : start + (index + 1) = start + 1 + index := by omega
          exact .inr (ih (by simpa using here) (next ▸ ofItem))

theorem own_mem_occurrencesOf (index : Nat) (item : Item) :
    ⟨.item index, [], .item item⟩ ∈ occurrencesOf index item := by
  cases item <;> simp [occurrencesOf]

theorem mem_occurrencesFrom_of_stands {items : List Item} {address : Address} {modules : List String}
    {subject : Subject} (stands : Stands items address modules subject) :
    ⟨address, modules, subject⟩ ∈ occurrencesFrom 0 items := by
  induction stands with
  | @item items index item here =>
      exact mem_occurrencesFrom here (by simpa using own_mem_occurrencesOf index item)
  | @member items index position head name isGeneric members member ofStruct here =>
      refine mem_occurrencesFrom ofStruct ?_
      rw [Nat.zero_add, occurrencesOf, List.mem_append]
      exact .inl (mem_memberOccurrences.mpr ⟨position, member, here, rfl⟩)
  | @inside items content index head name rest modules subject ofModule stands ih =>
      refine mem_occurrencesFrom ofModule ?_
      rw [Nat.zero_add, occurrencesOf, List.mem_append]
      exact .inl (List.mem_map_of_mem (f := Occurrence.within index name) ih)

theorem mem_occurrencesFrom_iff {items : List Item} {occurrence : Occurrence} :
    occurrence ∈ occurrencesFrom 0 items ↔
      Stands items occurrence.address occurrence.modules occurrence.subject :=
  ⟨stands_of_mem_occurrencesFrom List.drop_zero, mem_occurrencesFrom_of_stands⟩

abbrev Ordered (occurrences : List Occurrence) : Prop :=
  occurrences.Pairwise fun first second => first.address.Before second.address

theorem index_of_mem_occurrencesOf {index : Nat} {item : Item} {occurrence : Occurrence}
    (visited : occurrence ∈ occurrencesOf index item) : occurrence.address.index = index := by
  cases item with
  | record head name isGeneric members =>
      simp only [occurrencesOf, List.mem_append, List.mem_singleton] at visited
      obtain isMember | rfl := visited
      · obtain ⟨position, member, -, rfl⟩ := mem_memberOccurrences.mp isMember
        rfl
      · rfl
  | module head name content =>
      simp only [occurrencesOf, List.mem_append, List.mem_singleton] at visited
      obtain isInside | rfl := visited
      · obtain ⟨inner, -, rfl⟩ := List.mem_map.mp isInside
        rfl
      · rfl
  | named | implementation | other =>
      simp only [occurrencesOf, List.mem_singleton] at visited
      subst visited
      rfl

theorem le_index_of_mem_occurrencesFrom {start : Nat} {items : List Item} {occurrence : Occurrence}
    (visited : occurrence ∈ occurrencesFrom start items) : start ≤ occurrence.address.index := by
  induction items generalizing start with
  | nil => simp [occurrencesFrom] at visited
  | cons item items ih =>
      rw [occurrencesFrom, List.mem_append] at visited
      obtain inItem | inOthers := visited
      · exact Nat.le_of_eq (index_of_mem_occurrencesOf inItem).symm
      · exact Nat.le_of_succ_le (ih inOthers)

theorem ordered_memberOccurrences (index : Nat) (owner : String) (members : List Syntax.Member) :
    Ordered (memberOccurrences index owner members) := by
  rw [Ordered, memberOccurrences, List.pairwise_map]
  have inOrder : members.zipIdx.Pairwise fun first second => first.2 < second.2 := by
    rw [← List.pairwise_map (f := Prod.snd), List.zipIdx_map_snd]
    exact List.pairwise_lt_range'
  exact inOrder.imp .members

mutual

theorem ordered_occurrencesOf (index : Nat) (item : Item) : Ordered (occurrencesOf index item) := by
  cases item with
  | record head name isGeneric members =>
      rw [Ordered, occurrencesOf, List.pairwise_append]
      refine ⟨ordered_memberOccurrences index name members, List.pairwise_singleton _ _, ?_⟩
      intro first isMember second isItem
      obtain ⟨position, member, -, rfl⟩ := mem_memberOccurrences.mp isMember
      rw [List.mem_singleton.mp isItem]
      exact .memberOf index position
  | module head name content =>
      rw [Ordered, occurrencesOf, List.pairwise_append]
      refine ⟨?_, List.pairwise_singleton _ _, ?_⟩
      · exact List.pairwise_map.mpr ((ordered_occurrencesFrom 0 content).imp .within)
      · intro first isInside second isItem
        obtain ⟨inner, -, rfl⟩ := List.mem_map.mp isInside
        rw [List.mem_singleton.mp isItem]
        exact .contentOf index inner.address
  | named | implementation | other =>
      rw [occurrencesOf]
      exact List.pairwise_singleton _ _

theorem ordered_occurrencesFrom (start : Nat) (items : List Item) : Ordered (occurrencesFrom start items) := by
  cases items with
  | nil =>
      rw [occurrencesFrom]
      exact List.Pairwise.nil
  | cons item items =>
      rw [Ordered, occurrencesFrom, List.pairwise_append]
      refine ⟨ordered_occurrencesOf start item, ordered_occurrencesFrom (start + 1) items, ?_⟩
      intro first inItem second inOthers
      have atStart := index_of_mem_occurrencesOf inItem
      have behind := le_index_of_mem_occurrencesFrom inOthers
      exact .earlier (by omega)

end

/-- No name of a module around what stands among items is empty, and no name of a struct of which it is a member. -/
theorem Stands.noneEmpty {items : List Item} {address : Address} {modules : List String} {subject : Subject}
    (stands : Stands items address modules subject) (worded : Item.AllWorded items) :
    "" ∉ modules.map plainName ++ subject.owners := by
  induction stands with
  | item here => simp [Subject.owners]
  | member ofStruct here =>
      have isWord := (Item.allWorded_iff.mp worded _ (List.mem_of_getElem? ofStruct)).1
      simpa [Subject.owners] using isWord.plainName.ne_empty.symm
  | inside ofModule stands ih =>
      obtain ⟨isWord, contentWorded⟩ := Item.allWorded_iff.mp worded _ (List.mem_of_getElem? ofModule)
      simpa [isWord.plainName.ne_empty.symm] using ih contentWorded

namespace Occurrence

/-- The namespace of what stands at a place, if the items live in one. -/
def spaceIn (occurrence : Occurrence) (space : Namespace) : Namespace :=
  .ofSegments (space.segments ++ occurrence.modules.map plainName ++ occurrence.subject.owners)

theorem segments_spaceIn {items : List Item} {occurrence : Occurrence}
    (stands : Stands items occurrence.address occurrence.modules occurrence.subject) (worded : Item.AllWorded items)
    (space : Namespace) : (occurrence.spaceIn space).segments =
      space.segments ++ occurrence.modules.map plainName ++ occurrence.subject.owners := by
  refine Namespace.segments_ofSegments ?_
  rw [List.append_assoc, List.mem_append, not_or]
  exact ⟨space.noneEmpty, stands.noneEmpty worded⟩

def findings (file : Option FilePath) (space : Namespace) (occurrence : Occurrence) : List Finding :=
  match occurrence.subject.kind? with
  | none => []
  | some kind =>
      finding file (occurrence.spaceIn space) ⟨occurrence.subject.attributes, occurrence.subject.place⟩ occurrence.subject.name kind occurrence.subject.fields

theorem findings_within (file : Option FilePath) (space : Namespace) (name : String) (index : Nat)
    (occurrence : Occurrence) :
    (occurrence.within index name).findings file space = occurrence.findings file (space.child (plainName name)) := by
  simp [findings, spaceIn, within, space.ofSegments_child]

end Occurrence

theorem memberFinding_eq (file : Option FilePath) (space : Namespace) (name : String) (index position : Nat)
    (member : Syntax.Member) :
    memberFinding file (space.child (plainName name)) member position =
      (⟨.member index position, [], .member name member position⟩ : Occurrence).findings file space := by
  have sameName : memberName member position = (Subject.member name member position).name := by
    obtain ⟨attributes, written, type, place⟩ := member
    cases written <;> rfl
  simp [memberFinding, Occurrence.findings, Occurrence.spaceIn, Namespace.child, Subject.kind?, Subject.owners,
    Subject.attributes, Subject.place, Subject.fields, sameName]

theorem ownFindings_eq (file : Option FilePath) (space : Namespace) (index : Nat) (item : Item) :
    ownFindings file space item = (⟨.item index, [], .item item⟩ : Occurrence).findings file space := by
  cases item with
  | named head kind name =>
      cases kind <;>
        simp [ownFindings, Occurrence.findings, Occurrence.spaceIn, Subject.kind?, Subject.owners, Subject.attributes,
          Subject.place, Subject.fields, Subject.name, kindOf]
  | record | implementation | module | other =>
      simp [ownFindings, Occurrence.findings, Occurrence.spaceIn, Subject.kind?, Subject.owners, Subject.attributes,
        Subject.place, Subject.fields, Subject.name]

mutual

theorem itemFindings_eq (file : Option FilePath) (space : Namespace) (item : Item) (index : Nat) :
    (itemFindings file space item).declarations = (occurrencesOf index item).flatMap (·.findings file space) := by
  rw [itemFindings_declarations, ownFindings_eq file space index]
  cases item with
  | record head name isGeneric members =>
      simp only [occurrencesOf, innerFindings, memberOccurrences, List.flatMap_append, List.flatMap_map,
        List.flatMap_singleton, memberFinding_eq file space name index]
  | module head name content =>
      simp only [occurrencesOf, innerFindings, List.flatMap_append, List.flatMap_map, List.flatMap_singleton,
        Occurrence.findings_within, itemsFindings_eq file (space.child (plainName name)) content 0]
  | named | implementation | other => simp [occurrencesOf, innerFindings]

/-- The index of items is the visit of their places. -/
theorem itemsFindings_eq (file : Option FilePath) (space : Namespace) (items : List Item) (start : Nat) :
    (itemsFindings file space items).declarations = (occurrencesFrom start items).flatMap (·.findings file space) := by
  cases items with
  | nil => simp [itemsFindings, Findings.none, occurrencesFrom]
  | cons item items =>
      simp only [itemsFindings, Findings.append, occurrencesFrom, List.flatMap_append,
        itemFindings_eq file space item start, itemsFindings_eq file space items (start + 1)]

end

end Companion.Index
