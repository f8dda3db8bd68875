import Companion.Proofs.Render.Layout
import Companion.Proofs.Render.RustReads
import Companion.Proofs.Source.Indexing
import Companion.Proofs.Text.Runs
import Companion.Proofs.Text.Trim

set_option autoImplicit false

namespace Companion

open Companion.Syntax (IsIdentifier IsWord Look)

theorem Syntax.IsIdentifier.append {front name : String} (isFront : IsIdentifier front) (isIdentifier : IsIdentifier name) :
    IsIdentifier (front ++ name) := by
  rcases isFront with ⟨first, rest, chars, starts, continues⟩
  refine ⟨first, rest ++ name.toList, by simp [chars], starts, fun c member => ?_⟩
  rcases List.mem_append.mp member with inFront | inName
  · exact continues c inFront
  · rcases isIdentifier.chars inName with begins | goesOn
    · exact Text.continues_of_starts begins
    · exact goesOn

namespace Render.Rust

theorem isWord_identifier {name : String} (isIdentifier : IsIdentifier name) (canBeRaw : name ∉ Syntax.neverRaw) :
    IsWord (identifier name) := by
  unfold identifier
  split
  · exact .inr ⟨name, isIdentifier, canBeRaw, rfl⟩
  · exact .inl isIdentifier

theorem identifier_free {name : String} (canBeRaw : name ∉ Syntax.neverRaw) : identifier name ∉ Look.keywords := by
  have noMark : ∀ keyword ∈ Look.keywords, '#' ∉ keyword.toList := by decide
  have reserved : ∀ keyword ∈ Look.keywords, keyword ∈ keywords ∨ keyword ∈ Syntax.neverRaw := by decide
  unfold identifier
  split
  · intro isKeyword
    exact noMark _ isKeyword (by simp)
  · rename_i noKeyword
    intro isKeyword
    rcases reserved name isKeyword with isReserved | neverRaw
    · exact noKeyword (List.contains_iff_mem.mpr isReserved)
    · exact canBeRaw neverRaw

theorem plainName_of_isIdentifier {name : String} (isIdentifier : IsIdentifier name) : Index.plainName name = name := by
  unfold Index.plainName
  split
  · rename_i rest chars
    exact absurd (by simp [chars] : '#' ∈ name.toList) (isIdentifier.not_mem (by decide))
  · rfl

/-- What is written of a name stands for the name. -/
theorem plainName_identifier {name : String} (isIdentifier : IsIdentifier name) :
    Index.plainName (identifier name) = name := by
  unfold identifier
  split
  · simp [Index.plainName]
  · exact plainName_of_isIdentifier isIdentifier

def fronts : List String := ["ExtractField", "getThe", "setThe"]

theorem isIdentifier_front {front : String} (member : front ∈ fronts) : IsIdentifier front := by
  have all : ∀ front ∈ fronts, IsIdentifier front := by decide +kernel
  exact all front member

theorem front_append_free {front : String} (member : front ∈ fronts) (name : String) : front ++ name ∉ Look.keywords := by
  have noKeyword : ∀ front ∈ fronts, ∀ keyword ∈ Look.keywords, ¬ front.toList <+: keyword.toList := by decide
  intro isKeyword
  exact noKeyword front member _ isKeyword ⟨name.toList, by simp⟩

end Render.Rust

/-- Whether a text is a line of documentation as it is kept of a declaration: one line that is not empty, without white
space at its ends. -/
structure IsDocLine (line : String) : Prop where
  trimmed : Text.trim line = line
  nonempty : line ≠ ""
  noFeed : '\n' ∉ line.toList
  noReturn : '\r' ∉ line.toList

namespace IsDocLine

variable {line : String}

theorem docLines (isLine : IsDocLine line) : Render.docLines line = [line] := by
  have noEnd : ∀ c ∈ line.toList, Render.endsDocLine c = false := by
    intro c member
    have noFeed : c ≠ '\n' := fun same => isLine.noFeed (same ▸ member)
    have noReturn : c ≠ '\r' := fun same => isLine.noReturn (same ▸ member)
    simp [Render.endsDocLine, noFeed, noReturn]
  simp [Render.docLines, Text.split_of_none noEnd, (Text.trimmed_cases isLine.trimmed).2, isLine.nonempty]

theorem docLines_read (isLine : IsDocLine line) : Index.docLines (" " ++ line) = [line] := by
  have chars : (" " ++ line).toList = ' ' :: line.toList := by simp
  have noFeed : ∀ c ∈ (" " ++ line).toList, (c == '\n') = false := by
    intro c member
    have different : c ≠ '\n' := by
      rintro rfl
      exact isLine.noFeed (by simpa using member)
    simpa using different
  have lines : Text.lines (" " ++ line) = [" " ++ line] := by
    have same : String.ofList (' ' :: line.toList) = " " ++ line := by rw [← chars, String.ofList_toList]
    rw [Text.lines, Text.splitChars_of_none noFeed, chars]
    exact congrArg (fun text => [text]) same
  have trimmed : Text.trim (" " ++ line) = line := by
    have front : Text.trimFront (" " ++ line).toList = Text.trimFront line.toList := by
      rw [chars]
      exact List.dropWhile_cons_of_pos (by decide)
    rw [Text.trim, Text.trimChars, front]
    exact isLine.trimmed
  simp [Index.docLines, lines, trimmed, isLine.nonempty]

end IsDocLine

namespace Render.Rust

theorem documentation_docMarks (lines : List String) :
    Index.documentation (lines.map docMark) = lines.flatMap fun line => Index.docLines (" " ++ line) := by
  induction lines with
  | nil => rfl
  | cons line lines ih => exact congrArg (Index.docLines (" " ++ line) ++ ·) ih

theorem annotationNames_docMarks (lines : List String) : Index.annotationNames (lines.map docMark) = [] := by
  induction lines with
  | nil => rfl
  | cons line lines ih => exact ih

theorem annotationNames_of_fields {properties : List Property} {members : List Syntax.Member}
    (areFields : List.Forall₂ IsFieldOf properties members) :
    ∀ member ∈ members, Index.annotationNames member.attributes = [] := by
  induction areFields with
  | nil => simp
  | cons isField _ ih =>
      refine List.forall_mem_cons.mpr ⟨?_, ih⟩
      rw [isField.attributes]
      exact annotationNames_docMarks _

end Render.Rust

/-- Whether a field can be declared, and its type is understood: its name is an identifier or can be written as one, its type
can be read, no part of the type is kept as it stands, and its documentation is made of lines. -/
structure Field.IsDeclared (field : Field) : Prop where
  name : IsIdentifier field.name
  canBeRaw : field.name ∉ Syntax.neverRaw
  type : ∃ text type, Syntax.readType text = .ok type ∧ .ofSyntax type = field.type
  understood : field.type.VerbatimFree
  docs : ∀ line ∈ field.docs, IsDocLine line

/-- Whether a field can be written as a member: its name is an identifier or can be written as one, and its type can be read
from what is written of it. -/
structure Field.IsWritable (field : Field) : Prop where
  name : IsIdentifier field.name
  canBeRaw : field.name ∉ Syntax.neverRaw
  type : field.type.Written

def Field.nullable (field : Field) : Field :=
  { field with type := field.type.nullable }

/-- The property that stands for a field that can be written can be read. -/
theorem Field.IsWritable.named {field : Field} (writable : field.IsWritable) : Render.Rust.Named field.toProperty where
  type := writable.type.nullable
  value := writable.type.nullable.nonNull
  name := Render.Rust.isWord_identifier writable.name writable.canBeRaw
  accessor := .inl (.append (Render.Rust.isIdentifier_front (by decide)) writable.name)
  mutator := .inl (.append (Render.Rust.isIdentifier_front (by decide)) writable.name)
  nameFree := Render.Rust.identifier_free writable.canBeRaw
  accessorFree := Render.Rust.front_append_free (by decide) field.name
  mutatorFree := Render.Rust.front_append_free (by decide) field.name

namespace Field.IsDeclared

open Render.Rust

variable {field : Field}

theorem written (declared : field.IsDeclared) : field.type.Written := by
  rcases declared.type with ⟨text, type, read, same⟩
  have understood := declared.understood
  rw [← same] at understood ⊢
  exact TypeRef.written_ofSyntax type (Syntax.sound_readType read) understood

theorem writable (declared : field.IsDeclared) : field.IsWritable :=
  ⟨declared.name, declared.canBeRaw, declared.written⟩

theorem propertyDocs (declared : field.IsDeclared) : Render.propertyDocs field.toProperty = field.docs :=
  (List.flatMap_congr fun line member => (declared.docs line member).docLines).trans (List.flatMap_singleton' _)

/-- The documentation is read from the attributes that it is written as. -/
theorem documentation (declared : field.IsDeclared) :
    Index.documentation ((Render.propertyDocs field.toProperty).map docMark) = field.docs := by
  rw [declared.propertyDocs, documentation_docMarks]
  exact (List.flatMap_congr fun line member => (declared.docs line member).docLines_read).trans (List.flatMap_singleton' _)

/-- A member that is what is written of the field stands for the field with its nullable type. -/
theorem fieldOf (declared : field.IsDeclared) {member : Syntax.Member} (isField : IsFieldOf field.toProperty member)
    (position : Nat) : Index.fieldOf member position = field.nullable := by
  have name : Index.memberName member position = field.name := by
    rw [Index.memberName, isField.name]
    exact plainName_identifier declared.name
  have type : TypeRef.ofSyntax member.type = field.type.nullable := by
    rw [isField.type]
    exact declared.written.nullable.readBack
  rw [Index.fieldOf, name, type, isField.attributes, declared.documentation]
  rfl

end Field.IsDeclared

/-- The members of the structure stand for the fields with their nullable types. -/
theorem fieldsOf_members {fields : List Field} (declared : ∀ field ∈ fields, field.IsDeclared) {members : List Syntax.Member}
    (areFields : List.Forall₂ Render.Rust.IsFieldOf (fields.map Field.toProperty) members) :
    Index.fieldsOf members = fields.map Field.nullable := by
  suffices shifted : ∀ start, (members.zipIdx start).map (fun found => Index.fieldOf found.1 found.2) =
      fields.map Field.nullable from shifted 0
  induction fields generalizing members with
  | nil =>
      cases areFields
      exact fun _ => rfl
  | cons field fields ih =>
      cases areFields with
      | cons isField others =>
          intro start
          have first := (declared field List.mem_cons_self).fieldOf isField start
          have rest := ih (fun other member => declared other (List.mem_cons_of_mem _ member)) others (start + 1)
          exact congrArg₂ (· :: ·) first rest

section File

variable {name : String} {space : Namespace} {fields : List Field}

theorem namedType_of_writable (isIdentifier : IsIdentifier name) (oneLine : ∀ segment ∈ space.segments, Text.IsOneLine segment)
    (writable : ∀ field ∈ fields, field.IsWritable) : Render.Rust.NamedType (synthesize name space fields) := by
  have origin : Text.IsOneLine (space.qualify name) := Namespace.lacks_qualify (by decide) oneLine isIdentifier.isOneLine
  have named : ∀ property ∈ (synthesize name space fields).properties, Render.Rust.Named property := by
    intro property member
    rcases List.mem_map.mp member with ⟨field, isField, rfl⟩
    exact (writable field isField).named
  exact {
    name := .inl (.append (Render.Rust.isIdentifier_front (by decide)) isIdentifier)
    origin
    sourceName := isIdentifier
    properties := fun property member => (named property member).toLegible
    free := Render.Rust.front_append_free (by decide) name
    named }

theorem namedType_synthesize (isIdentifier : IsIdentifier name) (oneLine : ∀ segment ∈ space.segments, Text.IsOneLine segment)
    (declared : ∀ field ∈ fields, field.IsDeclared) : Render.Rust.NamedType (synthesize name space fields) :=
  namedType_of_writable isIdentifier oneLine fun field member => (declared field member).writable

variable (file : Option FilePath) (target : Namespace)

def structFinding (type : CompanionType) (place : Syntax.Position) (members : List Syntax.Member) : Finding :=
  ⟨["allow", "derive"], Index.plainName type.name, target, .classLike, Index.locationIn file place, Index.fieldsOf members⟩

theorem declarations_of_struct {type : CompanionType} {item : Syntax.Item} (isStruct : Render.Rust.IsStructOf type item) :
    ∃ place members, List.Forall₂ Render.Rust.IsFieldOf type.properties members ∧
      (Index.itemFindings file target item).declarations = [structFinding file target type place members] := by
  rcases isStruct with ⟨place, members, areFields, rfl⟩
  have documented := Render.Rust.annotationNames_of_fields areFields
  have undeclared : ∀ owner, members.zipIdx.flatMap (fun found =>
      Index.memberFinding file owner found.1 found.2) = [] := by
    intro owner
    refine List.flatMap_eq_nil_iff.mpr fun found isMember => ?_
    have none := documented found.1 (List.fst_mem_of_mem_zipIdx isMember)
    simp [Index.memberFinding, Index.finding, none]
  refine ⟨place, members, areFields, ?_⟩
  rw [Index.itemFindings, Index.recordFindings]
  exact congrArg (· ++ _) (undeclared _)

/-- The blocks of functions are declared, but cannot be made without values. -/
theorem annotations_of_blocks {items : List Syntax.Item} (areBlocks : ∀ item ∈ items, Render.Rust.IsBlock item) :
    ∀ found ∈ (Index.itemsFindings file target items).declarations, found.annotations = ["allow"] := by
  induction items with
  | nil => simp [Index.itemsFindings, Index.Findings.none]
  | cons item items ih =>
      rcases areBlocks item List.mem_cons_self with ⟨place, name, rfl⟩
      intro found member
      rcases List.mem_append.mp member with ofFirst | ofOthers
      · rw [List.mem_singleton.mp ofFirst]
        rfl
      · exact ih (fun one isOther => areBlocks one (List.mem_cons_of_mem _ isOther)) found ofOthers

/-- Where one finding alone carries a tag, and comes first, its declaration alone has the tag, with its fields. -/
theorem Source.addAll_first {tag : String} {first : Finding} {others : List Finding}
    (carries : first.annotations.contains tag = true) (noOther : ∀ found ∈ others, found.annotations.contains tag = false) :
    (empty.addAll (first :: others)).declarationsWith tag = [(entryAt 0 first).declaration] ∧
      (empty.addAll (first :: others)).fieldsOf (entryAt 0 first).declaration = first.fields := by
  have entries := entries_addAll empty (first :: others)
  rw [List.mapIdx_cons] at entries
  constructor
  · have noneOther : (others.mapIdx fun index one => entryAt (empty.entries.length + (index + 1)) one).filter
        (fun entry => entry.annotations.contains tag) = [] := by
      refine List.filter_eq_nil_iff.mpr fun entry member => ?_
      rcases List.mem_mapIdx.mp member with ⟨index, bound, rfl⟩
      simpa using noOther _ (List.getElem_mem bound)
    rw [declarationsWith, entries, List.filter_append, List.filter_cons, noneOther]
    simp only [entryAt_annotations, carries, if_true]
    rfl
  · rw [fieldsOf, entries]
    rfl

/-- The file of a companion is read, and declares one class that can be made without values: the companion, with the fields
in their order, each with its documentation and its nullable type. -/
theorem Source.addText_render (isIdentifier : IsIdentifier name) (oneLine : ∀ segment ∈ space.segments, Text.IsOneLine segment)
    (declared : ∀ field ∈ fields, field.IsDeclared) :
    ∃ source events declaration,
      empty.addText ((synthesize name space fields).render .rust) target file = .ok (source, events) ∧
        source.declarationsWith "derive" = [declaration] ∧ declaration.kind = .classLike ∧
        declaration.name = Naming.companion name ∧ source.fieldsOf declaration = fields.map Field.nullable := by
  rcases Render.Rust.readFile_file (namedType_synthesize isIdentifier oneLine declared) with
    ⟨_, read, struct, blocks, rfl, isStruct, areBlocks⟩
  rcases declarations_of_struct file target isStruct with ⟨place, members, areFields, found⟩
  have others : ∀ one ∈ (Index.itemsFindings file target blocks).declarations, one.annotations.contains "derive" = false := by
    intro one member
    rw [annotations_of_blocks file target areBlocks one member]
    rfl
  have all : (Index.itemsFindings file target (struct :: blocks)).declarations =
      (Index.itemFindings file target struct).declarations ++ (Index.itemsFindings file target blocks).declarations := rfl
  rw [found] at all
  have carries : (structFinding file target (synthesize name space fields) place members).annotations.contains "derive" = true :=
    rfl
  -- Of all that is found, the structure comes first and alone carries `derive`; the blocks carry `allow`.
  rcases addAll_first carries others with ⟨alone, itsFields⟩
  rw [← List.singleton_append, ← all] at alone itsFields
  have plain : Index.plainName (Naming.companion name) = Naming.companion name :=
    Render.Rust.plainName_of_isIdentifier (.append (Render.Rust.isIdentifier_front (by decide)) isIdentifier)
  have added : empty.addText ((synthesize name space fields).render .rust) target file =
      .ok (empty.addAll (Index.itemsFindings file target (struct :: blocks)).declarations,
        (Index.itemsFindings file target (struct :: blocks)).events ++
          [textEvent target file (Index.itemsFindings file target (struct :: blocks)).declarations.length]) := by
    simp only [addText, CompanionType.render, read]
  exact ⟨_, _, _, added, alone, rfl, plain, itsFields.trans (fieldsOf_members declared areFields)⟩

end File

/-- Fields of a user. The first name is a keyword, and its type begins at the root; the second type admits an absent value. -/
def userFields : List Field :=
  [⟨"type", .list (.named ["", "codes", "Code"] []), ["The codes.", "In order."]⟩,
    ⟨"age", .optional (.scalar .u32), []⟩]

theorem isDeclared_userFields : ∀ field ∈ userFields, field.IsDeclared := by
  have codes : Syntax.readType "Vec<::codes::Code>" = .ok (.path false [] "Vec" [.path true ["codes"] "Code" []]) :=
    Syntax.ok_of_toOption (by decide +kernel)
  have age : Syntax.readType "Option<u32>" = .ok (.path false [] "Option" [.path false [] "u32" []]) :=
    Syntax.ok_of_toOption (by decide +kernel)
  intro field member
  rcases List.mem_cons.mp member with rfl | isOther
  · exact {
      name := by decide
      canBeRaw := by decide
      type := ⟨_, _, codes, rfl⟩
      understood := trivial
      docs := by
        intro line isLine
        rcases List.mem_pair.mp isLine with rfl | rfl <;> exact ⟨by decide, by decide, by decide, by decide⟩ }
  · rw [List.mem_singleton.mp isOther]
    exact {
      name := by decide
      canBeRaw := by decide
      type := ⟨_, _, age, rfl⟩
      understood := trivial
      docs := by simp }

/-- The companion of a user has a list of codes that may be absent, and the age as it was. -/
theorem Source.addText_render_user :
    ∃ source events declaration,
      empty.addText ((synthesize "User" ⟨["app"], by decide⟩ userFields).render .rust) ⟨["app"], by decide⟩ none = .ok (source, events) ∧
        source.declarationsWith "derive" = [declaration] ∧ declaration.kind = .classLike ∧
        declaration.name = "ExtractFieldUser" ∧
        source.fieldsOf declaration =
          [⟨"type", .optional (.list (.named ["", "codes", "Code"] [])), ["The codes.", "In order."]⟩,
            ⟨"age", .optional (.scalar .u32), []⟩] :=
  addText_render none ⟨["app"], by decide⟩ (by decide) (by decide) isDeclared_userFields

end Companion
