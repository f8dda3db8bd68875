import Companion.Proofs.Source.Loading

set_option autoImplicit false

namespace Companion

open Companion.Syntax (IsIdentifier Item)

theorem Text.continuesIdentifier_of_isDigit {c : Char} (isDigit : c.isDigit = true) : continuesIdentifier c = true := by
  have digits : ∀ code : Fin 10, holdsAt identifierContinueChanges (48 + code) = true := by decide +kernel
  have bounds : 48 ≤ c.toNat ∧ c.toNat ≤ 57 := by
    simp only [Char.isDigit, Bool.and_eq_true, decide_eq_true_eq] at isDigit
    exact ⟨UInt32.le_iff_toNat_le.mp isDigit.1, UInt32.le_iff_toNat_le.mp isDigit.2⟩
  have same : 48 + (c.toNat - 48) = c.toNat := by omega
  have held := digits ⟨c.toNat - 48, by omega⟩
  rwa [same] at held

theorem isIdentifier_position (position : Nat) : IsIdentifier ("_" ++ toString position) := by
  refine ⟨'_', (toString position).toList, by simp, rfl, fun c member => ?_⟩
  have isDigit : c ∈ Nat.toDigits 10 position := by simpa [toString] using member
  exact Text.continuesIdentifier_of_isDigit (Nat.isDigit_of_mem_toDigits (by omega) (by omega) isDigit)

theorem Index.isIdentifier_memberName {member : Syntax.Member} (worded : member.Worded) (position : Nat) :
    IsIdentifier (memberName member position) := by
  unfold memberName
  cases named : member.name with
  | none => exact isIdentifier_position position
  | some name => exact (worded.word name named).plainName

def Finding.HasMembers (found : Finding) : Prop :=
  ∀ field ∈ found.fields, ∃ member position, member.Worded ∧ Index.fieldOf member position = field

namespace Index

variable {file : Option FilePath} {found : Finding}

theorem hasMembers_of_mem_finding {space : Namespace} {head : Syntax.ItemHead} {name : String} {kind : DeclarationKind}
    {fields : List Field} (member : found ∈ finding file space head name kind fields)
    (areMembers : ∀ field ∈ fields, ∃ member position, member.Worded ∧ fieldOf member position = field) :
    found.HasMembers := by
  simp only [finding] at member
  split at member
  · contradiction
  · rw [List.mem_singleton.mp member]
    exact areMembers

theorem hasMembers_of_mem_recordFindings {space : Namespace} {head : Syntax.ItemHead} {name : String} {isGeneric : Bool}
    {members : List Syntax.Member} (worded : ∀ member ∈ members, member.Worded)
    (member : found ∈ (recordFindings file space head name isGeneric members).declarations) : found.HasMembers := by
  unfold recordFindings at member
  obtain ofMembers | ofRecord := List.mem_append.mp member
  · obtain ⟨⟨other, position⟩, -, isField⟩ := List.mem_flatMap.mp ofMembers
    exact hasMembers_of_mem_finding isField (by simp)
  · refine hasMembers_of_mem_finding ofRecord fun field isField => ?_
    obtain ⟨⟨other, position⟩, isMember, rfl⟩ := List.mem_map.mp isField
    exact ⟨other, position, worded other (List.fst_mem_of_mem_zipIdx isMember), rfl⟩

mutual

theorem hasMembers_of_mem_itemFindings {space : Namespace} {item : Item} (worded : item.Worded)
    (member : found ∈ (itemFindings file space item).declarations) : found.HasMembers := by
  cases item with
  | record head name isGeneric members =>
      exact hasMembers_of_mem_recordFindings worded.2 (by simpa [itemFindings] using member)
  | named head kind name => exact hasMembers_of_mem_finding (by simpa [itemFindings] using member) (by simp)
  | implementation head target => exact hasMembers_of_mem_finding (by simpa [itemFindings] using member) (by simp)
  | module head name content =>
      have inside : found ∈ (itemsFindings file (space.child (plainName name)) content).declarations ∨
          found ∈ finding file space head (plainName name) .module [] := by
        simpa [itemFindings, Findings.append] using member
      obtain inContent | isModule := inside
      · exact hasMembers_of_mem_itemsFindings worded.2 inContent
      · exact hasMembers_of_mem_finding isModule (by simp)
  | other => simp [itemFindings, Findings.none] at member

/-- The fields that are found in the items of a file stand for members of structs in it. -/
theorem hasMembers_of_mem_itemsFindings {space : Namespace} {items : List Item} (worded : Item.AllWorded items)
    (member : found ∈ (itemsFindings file space items).declarations) : found.HasMembers := by
  cases items with
  | nil => simp [itemsFindings, Findings.none] at member
  | cons item others =>
      obtain inItem | inOthers := List.mem_append.mp member
      · exact hasMembers_of_mem_itemFindings worded.1 inItem
      · exact hasMembers_of_mem_itemsFindings worded.2 inOthers

end

end Index

namespace Source

variable {source : Source}

theorem forall_entries_addFiles {holds : Entry → Prop}
    (ofTexts : ∀ text items space file, Syntax.readFile text = .ok items → ∀ id,
      ∀ found ∈ (Index.itemsFindings file space items).declarations, holds (entryAt id found))
    (root : FilePath) (paths : List FilePath) (before : ∀ entry ∈ source.entries, holds entry) (work : Workspace) :
    ∀ entry ∈ (addFiles root paths source work).source.entries, holds entry := by
  induction paths generalizing source work with
  | nil => exact before
  | cons path others ih =>
      unfold Source.addFiles
      split
      · exact before
      · rename_i next events added
        obtain ⟨text, items, -, read, rfl⟩ := exists_items_of_addFile added
        refine ih (fun entry member => ?_) _
        obtain earlier | ⟨id, found, isFound, rfl⟩ := mem_entries_addAll member
        · exact before entry earlier
        · exact ofTexts text items _ _ read id found isFound

theorem forall_entries_ofDirectory {holds : Entry → Prop}
    (ofTexts : ∀ text items space file, Syntax.readFile text = .ok items → ∀ id,
      ∀ found ∈ (Index.itemsFindings file space items).declarations, holds (entryAt id found))
    {work : Workspace} {root : FilePath} (loaded : (ofDirectory work root).2 = .ok source) :
    ∀ entry ∈ source.entries, holds entry := by
  have nothing : ∀ entry ∈ empty.entries, holds entry := by simp [empty]
  have all : ∀ entry ∈ (empty.addDirectory work root).source.entries, holds entry := by
    unfold addDirectory
    split
    · exact forall_entries_addFiles ofTexts root _ nothing work
    · exact nothing
  unfold ofDirectory at loaded
  dsimp only at loaded
  split at loaded
  · contradiction
  · cases loaded
    exact all

/-- The fields of a loaded declaration stand for members that were read. -/
theorem exists_member_of_mem_fieldsOf {work : Workspace} {root : FilePath} (loaded : (ofDirectory work root).2 = .ok source)
    {declaration : Declaration} {field : Field} (isField : field ∈ source.fieldsOf declaration) :
    ∃ member position, member.Worded ∧ Index.fieldOf member position = field := by
  have entries : ∀ entry ∈ source.entries, ∀ field ∈ entry.fields,
      ∃ member position, member.Worded ∧ Index.fieldOf member position = field :=
    forall_entries_ofDirectory (fun text items space file read id found isFound =>
      Index.hasMembers_of_mem_itemsFindings (Syntax.allWorded_readFile read) isFound) loaded
  unfold fieldsOf at isField
  split at isField
  · rename_i entry at_id
    exact entries entry (List.mem_of_getElem? at_id) field isField
  · contradiction

theorem isIdentifier_of_mem_fieldsOf {work : Workspace} {root : FilePath} (loaded : (ofDirectory work root).2 = .ok source)
    {declaration : Declaration} {field : Field} (member : field ∈ source.fieldsOf declaration) :
    IsIdentifier field.name := by
  obtain ⟨_, position, worded, rfl⟩ := exists_member_of_mem_fieldsOf loaded member
  exact Index.isIdentifier_memberName worded position

end Source

end Companion
