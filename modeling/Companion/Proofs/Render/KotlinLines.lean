import Companion.Proofs.Render.KotlinTypes
import Companion.Proofs.Render.Layout

set_option autoImplicit false

namespace Companion

open Companion.Text (IsOneLine Lacks)

/-- Whether nothing that is put into the Kotlin file of a type, apart from documentation, has a character. -/
structure CompanionType.LacksInKotlin (c : Char) (type : CompanionType) : Prop where
  name : Text.Lacks c type.name
  sourceName : Text.Lacks c type.sourceName
  segments : ∀ segment ∈ type.space.segments, Text.Lacks c segment
  names : ∀ property ∈ type.properties, Text.Lacks c property.name
  accessors : ∀ property ∈ type.properties, Text.Lacks c property.accessor
  mutators : ∀ property ∈ type.properties, Text.Lacks c property.mutator
  paths : ∀ property ∈ type.properties, ∀ path ∈ property.type.paths, ∀ segment ∈ path, Text.Lacks c segment

theorem TypeRef.isOneLine_of_mem_paths {type : TypeRef} (oneLine : IsOneLine type.render) :
    ∀ path ∈ type.paths, ∀ segment ∈ path, IsOneLine segment := by
  have ofOthers : ∀ others, IsOneLine (renderOthers others) → ∀ argument ∈ others, IsOneLine argument.render := by
    intro others oneLine
    induction others with
    | nil => simp
    | cons type others ih =>
        rw [renderOthers, Text.isOneLine_append, Text.isOneLine_append] at oneLine
        exact List.forall_mem_cons.mpr ⟨oneLine.1.2, ih oneLine.2⟩
  induction type using TypeRef.nested with
  | scalar | string | verbatim => simp [paths]
  | list element ih =>
      rw [render, Text.isOneLine_append, Text.isOneLine_append] at oneLine
      exact ih oneLine.1.2
  | optional value ih =>
      rw [render, Text.isOneLine_append, Text.isOneLine_append] at oneLine
      exact ih oneLine.1.2
  | named path arguments ih =>
      rw [forall_mem_paths_named]
      cases arguments with
      | nil =>
          rw [render] at oneLine
          exact ⟨(Text.isOneLine_intercalate (by decide)).mp oneLine, by simp⟩
      | cons first others =>
          simp only [render, Text.isOneLine_append] at oneLine
          obtain ⟨⟨⟨⟨names, -⟩, isFirst⟩, areOthers⟩, -⟩ := oneLine
          have ofArguments : ∀ argument ∈ first :: others, IsOneLine argument.render :=
            List.forall_mem_cons.mpr ⟨isFirst, ofOthers others areOthers⟩
          exact ⟨(Text.isOneLine_intercalate (by decide)).mp names,
            fun argument member => ih argument member (ofArguments argument member)⟩

theorem lacksInKotlin_synthesize {name : String} {space : Namespace} {fields : List Field} (isName : IsOneLine name)
    (segments : ∀ segment ∈ space.segments, IsOneLine segment) (names : ∀ field ∈ fields, IsOneLine field.name)
    (paths : ∀ field ∈ fields, ∀ path ∈ field.type.paths, ∀ segment ∈ path, IsOneLine segment) :
    (synthesize name space fields).LacksInKotlin '\n' := by
  have behind : ∀ front : String, IsOneLine front → ∀ field ∈ fields, IsOneLine (front ++ field.name) :=
    fun front isFront field member => Text.isOneLine_append.mpr ⟨isFront, names field member⟩
  exact {
    name := Text.isOneLine_append.mpr ⟨by decide, isName⟩
    sourceName := isName
    segments
    names := List.forall_mem_map.mpr names
    accessors := List.forall_mem_map.mpr (behind "getThe" (by decide))
    mutators := List.forall_mem_map.mpr (behind "setThe" (by decide))
    paths := List.forall_mem_map.mpr fun field member => by
      rw [Field.toProperty, TypeRef.paths_nullable]
      exact paths field member }

namespace Render.Kotlin

def classLine (type : CompanionType) : String :=
  if type.isEmpty then "class " ++ type.name else "class " ++ type.name ++ " \x7b"

/-- Whether a character is in none of the texts that every Kotlin file is made of, apart from documentation. -/
def IsForeign (c : Char) : Prop :=
  c = '\n' ∨ c = '*'

theorem IsForeign.lacks {c : Char} (isForeign : IsForeign c) {text : String} (fixed : Lacks '\n' text ∧ Lacks '*' text) :
    Lacks c text := by
  obtain rfl | rfl := isForeign
  · exact fixed.1
  · exact fixed.2

section Lacks

variable {c : Char} (isForeign : IsForeign c)

include isForeign

theorem lacks_identifier {name : String} (lacks : Lacks c name) : Lacks c (identifier name) := by
  have quote : Lacks c "`" := isForeign.lacks (by decide)
  unfold identifier
  split
  · exact Text.lacks_append.mpr ⟨Text.lacks_append.mpr ⟨quote, lacks⟩, quote⟩
  · exact lacks

theorem lacks_applied {name : String} {arguments : List String} (isName : Lacks c name)
    (areArguments : ∀ argument ∈ arguments, Lacks c argument) : Lacks c (applied name arguments) := by
  unfold applied
  split
  · exact isName
  · simp only [Text.lacks_append, and_assoc]
    exact ⟨isName, isForeign.lacks (by decide), (Text.lacks_intercalate (isForeign.lacks (by decide))).mpr areArguments,
      isForeign.lacks (by decide)⟩

theorem lacks_nullableText {text : String} (lacks : Lacks c text) : Lacks c (nullableText text) := by
  unfold nullableText
  split
  · exact lacks
  · exact Text.lacks_append.mpr ⟨lacks, isForeign.lacks (by decide)⟩

theorem lacks_typeText {type : TypeRef} (segments : ∀ path ∈ type.paths, ∀ segment ∈ path, Lacks c segment) :
    Lacks c (typeText type) := by
  have given : ∀ name ∈ givenNames, Lacks c name := by
    have fixed : ∀ name ∈ givenNames, Lacks '\n' name ∧ Lacks '*' name := by decide
    exact fun name isGiven => isForeign.lacks (fixed name isGiven)
  exact typeText_made given (fun _ _ isName areArguments => lacks_applied isForeign isName areArguments)
    (fun _ lacks => lacks_nullableText isForeign lacks) segments

/-- No line of a member but those of documentation has a foreign character, unless it is in a name. -/
theorem lacks_of_mem_memberLines {property : Property} (name : Lacks c property.name) (accessor : Lacks c property.accessor)
    (mutator : Lacks c property.mutator) (paths : ∀ path ∈ property.type.paths, ∀ segment ∈ path, Lacks c segment)
    (docs : ∀ line ∈ docLines property, Lacks c line) :
    ∀ member ∈ [.property property, .accessor property, .mutator property],
      ∀ line ∈ memberLines member, Lacks c line := by
  have quoted : Lacks c (identifier property.name) := lacks_identifier isForeign name
  have value : Lacks c (typeText property.type) := lacks_typeText isForeign paths
  have ofProperty : Lacks c (propertyLine property) := by
    unfold propertyLine
    simp only [Text.lacks_append, and_assoc]
    exact ⟨isForeign.lacks (by decide), quoted, isForeign.lacks (by decide), value, isForeign.lacks (by decide)⟩
  have ofAccessor : Lacks c (accessorLine property) := by
    unfold accessorLine
    simp only [Text.lacks_append, and_assoc]
    exact ⟨isForeign.lacks (by decide), accessor, isForeign.lacks (by decide), value, isForeign.lacks (by decide)⟩
  have ofMutator : Lacks c (mutatorLine property) := by
    unfold mutatorLine
    simp only [Text.lacks_append, and_assoc]
    exact ⟨isForeign.lacks (by decide), mutator, isForeign.lacks (by decide), quoted, isForeign.lacks (by decide), value,
      isForeign.lacks (by decide)⟩
  have ofReturn : Lacks c ("    return " ++ identifier property.name) :=
    Text.lacks_append.mpr ⟨isForeign.lacks (by decide), quoted⟩
  have ofStoring : Lacks c ("    this." ++ identifier property.name ++ " = " ++ identifier property.name) := by
    simp only [Text.lacks_append, and_assoc]
    exact ⟨isForeign.lacks (by decide), quoted, isForeign.lacks (by decide), quoted⟩
  have closing : Lacks c "  \x7d" := isForeign.lacks (by decide)
  intro member isMember line inside
  simp only [List.mem_cons, List.not_mem_nil, or_false] at isMember
  obtain rfl | rfl | rfl := isMember
  · exact (List.mem_append.mp inside).elim (docs line) fun isLast => List.mem_singleton.mp isLast ▸ ofProperty
  · simp only [memberLines, List.mem_cons, List.not_mem_nil, or_false] at inside
    obtain rfl | rfl | rfl := inside
    · exact ofAccessor
    · exact ofReturn
    · exact closing
  · simp only [memberLines, List.mem_cons, List.not_mem_nil, or_false] at inside
    obtain rfl | rfl | rfl := inside
    · exact ofMutator
    · exact ofStoring
    · exact closing

theorem lacks_of_mem_fileLines {type : CompanionType} (lacks : type.LacksInKotlin c)
    (docs : ∀ property ∈ type.properties, ∀ line ∈ docLines property, Lacks c line) : ∀ line ∈ fileLines type, Lacks c line := by
  have ofMembers : ∀ member ∈ type.members, ∀ line ∈ memberLines member, Lacks c line :=
    forall_mem_members fun property member => lacks_of_mem_memberLines isForeign (lacks.names property member)
      (lacks.accessors property member) (lacks.mutators property member) (lacks.paths property member) (docs property member)
  have header : Lacks c (headerLine type) := lacks_headerLine (isForeign.lacks (by decide)) (isForeign.lacks (by decide))
    (isForeign.lacks (by decide)) lacks.segments lacks.sourceName
  have package : ∀ line ∈ packageLines type.space, Lacks c line := by
    unfold packageLines
    split
    · simp
    · intro line isLine
      rw [List.mem_singleton.mp isLine, Text.lacks_append, Text.lacks_intercalate (isForeign.lacks (by decide))]
      exact ⟨isForeign.lacks (by decide),
        List.forall_mem_map.mpr fun segment member => lacks_identifier isForeign (lacks.segments segment member)⟩
  have imports : ∀ line ∈ importsLines (importsOf (type.properties.map (·.type))), Lacks c line := by
    have fixed : ∀ line ∈ ["", "import java.math.BigInteger"], Lacks '\n' line ∧ Lacks '*' line := by decide
    unfold importsOf
    split
    · exact fun line inside => isForeign.lacks (fixed line inside)
    · simp [importsLines]
  have blank : Lacks c "" := isForeign.lacks (by decide)
  have members : ∀ line ∈ [""].intercalate (type.members.map memberLines), Lacks c line :=
    Text.forall_mem_intercalate blank (List.forall_mem_map.mpr ofMembers)
  have opening : ∀ rest : String, Lacks c rest → ∀ line ∈ ["class " ++ type.name ++ rest], Lacks c line := by
    intro rest isRest line isClass
    rw [List.mem_singleton.mp isClass, Text.lacks_append, Text.lacks_append]
    exact ⟨⟨isForeign.lacks (by decide), lacks.name⟩, isRest⟩
  have preamble : ∀ line ∈ preambleLines type, Lacks c line := by
    unfold preambleLines
    simp only [List.forall_mem_append, List.forall_mem_singleton]
    exact ⟨⟨⟨header, package⟩, imports⟩, blank⟩
  have closing : ∀ line ∈ ["\x7d"], Lacks c line := List.forall_mem_singleton.mpr (isForeign.lacks (by decide))
  unfold fileLines bodyLines
  split
  · exact List.forall_mem_append.mpr ⟨preamble, by simpa using opening "" blank⟩
  · simp only [List.forall_mem_append]
    exact ⟨preamble, ⟨opening _ (isForeign.lacks (by decide)), members⟩, closing⟩

end Lacks

theorem isOneLine_replace {pattern replacement text : String} (isReplacement : IsOneLine replacement)
    (oneLine : IsOneLine text) : IsOneLine (Text.replace pattern replacement text) := by
  have kept : ∀ (skip : Nat) (chars : List Char), '\n' ∉ chars →
      '\n' ∉ Text.replaceFrom pattern.toList replacement.toList skip chars := by
    intro skip chars none
    induction chars generalizing skip with
    | nil => simp [Text.replaceFrom]
    | cons c rest ih =>
        obtain ⟨isOther, noneLeft⟩ : '\n' ≠ c ∧ '\n' ∉ rest := by simpa using none
        cases skip with
        | succ skip => exact ih skip noneLeft
        | zero =>
            simp only [Text.replaceFrom]
            split
            · exact List.not_mem_append isReplacement (ih _ noneLeft)
            · exact List.not_mem_cons_of_ne_of_not_mem isOther (ih 0 noneLeft)
  simpa [IsOneLine, Text.replace] using kept 0 text.toList oneLine

theorem isOneLine_commentText {line : String} (oneLine : IsOneLine line) : IsOneLine (commentText line) :=
  isOneLine_replace (by decide) (isOneLine_replace (by decide) oneLine)

theorem isOneLine_of_mem_docLines (property : Property) : ∀ line ∈ docLines property, IsOneLine line := by
  have texts : ∀ line ∈ (propertyDocs property).map commentText, IsOneLine ("   * " ++ line) :=
    List.forall_mem_map.mpr fun line member =>
      Text.isOneLine_append.mpr ⟨by decide, isOneLine_commentText (lacks_of_mem_propertyDocs (.inl rfl) member)⟩
  unfold docLines
  split
  · simp
  · simp +decide only [List.forall_mem_append, and_true, true_and]
    exact List.forall_mem_map.mpr texts

theorem endedLines_render {type : CompanionType} (oneLine : type.LacksInKotlin '\n') :
    Text.endedLines (type.render .kotlin) = fileLines type := by
  have text : type.render .kotlin = Text.ended (fileLines type) := (ended_fileLines type).symm
  rw [text, Text.endedLines_ended (lacks_of_mem_fileLines (.inl rfl) oneLine fun property _ => isOneLine_of_mem_docLines property)]

theorem isOneLine_of_mem_fileLines {type : CompanionType} (unbroken : type.Unbroken) :
    ∀ line ∈ fileLines type, IsOneLine line := by
  have oneLine : type.LacksInKotlin '\n' := {
    name := unbroken.name
    sourceName := unbroken.sourceName
    segments := unbroken.segments
    names := unbroken.names
    accessors := unbroken.accessors
    mutators := unbroken.mutators
    paths := fun property member => TypeRef.isOneLine_of_mem_paths (unbroken.types property member) }
  exact lacks_of_mem_fileLines (.inl rfl) oneLine fun property _ => isOneLine_of_mem_docLines property

end Render.Kotlin

end Companion
