import Companion.Proofs.Render.RustForms
import Companion.Proofs.Text.Lines
import Companion.Render

set_option autoImplicit false

namespace Companion

open Companion.Syntax (IsIdentifier)
open Companion.Text (IsBreak IsOneLine Lacks ended endedLines)

theorem Syntax.IsIdentifier.lacks {name : String} (isIdentifier : IsIdentifier name) {c : Char} (isBreak : IsBreak c) :
    Lacks c name := by
  obtain rfl | rfl := isBreak
  · exact isIdentifier.not_mem (by decide)
  · exact isIdentifier.not_mem (by decide)

theorem Syntax.IsIdentifier.isOneLine {name : String} (isIdentifier : IsIdentifier name) : IsOneLine name :=
  isIdentifier.lacks (.inl rfl)

theorem Namespace.lacks_qualify {c : Char} (point : Lacks c ".") {space : Namespace} {name : String}
    (segments : ∀ segment ∈ space.segments, Lacks c segment) (lacks : Lacks c name) : Lacks c (space.qualify name) := by
  unfold qualify
  split
  · exact lacks
  · have dotted : Lacks c space.toDotted := (Text.lacks_intercalate point).mpr segments
    exact Text.lacks_append.mpr ⟨Text.lacks_append.mpr ⟨dotted, point⟩, lacks⟩

theorem TypeRef.isOneLine_nullable {type : TypeRef} (oneLine : IsOneLine type.render) : IsOneLine type.nullable.render := by
  unfold nullable
  split
  · exact oneLine
  · rw [render, Text.isOneLine_append, Text.isOneLine_append]
    exact ⟨⟨by decide, oneLine⟩, by decide⟩

theorem TypeRef.lacks_nonNull {c : Char} {type : TypeRef} (lacks : Lacks c type.render) : Lacks c type.nonNull.render := by
  cases type with
  | optional value =>
      rw [render, Text.lacks_append, Text.lacks_append] at lacks
      exact lacks.1.2
  | scalar | string | list | named | verbatim => exact lacks

/-- Whether nothing that is put into the lines of the file of a type has a character. -/
structure CompanionType.Lacks (c : Char) (type : CompanionType) : Prop where
  name : Text.Lacks c type.name
  sourceName : Text.Lacks c type.sourceName
  segments : ∀ segment ∈ type.space.segments, Text.Lacks c segment
  names : ∀ property ∈ type.properties, Text.Lacks c property.name
  accessors : ∀ property ∈ type.properties, Text.Lacks c property.accessor
  mutators : ∀ property ∈ type.properties, Text.Lacks c property.mutator
  types : ∀ property ∈ type.properties, Text.Lacks c property.type.render

/-- Whether nothing that is put into the lines of the file of a type breaks a line. -/
abbrev CompanionType.Unbroken (type : CompanionType) : Prop :=
  type.Lacks '\n'

theorem unbroken_synthesize {name : String} {space : Namespace} {fields : List Field} (isName : IsOneLine name)
    (segments : ∀ segment ∈ space.segments, IsOneLine segment) (names : ∀ field ∈ fields, IsOneLine field.name)
    (types : ∀ field ∈ fields, IsOneLine field.type.render) : (synthesize name space fields).Unbroken := by
  have behind : ∀ front : String, IsOneLine front → ∀ field ∈ fields, IsOneLine (front ++ field.name) :=
    fun front isFront field member => Text.isOneLine_append.mpr ⟨isFront, names field member⟩
  exact {
    name := Text.isOneLine_append.mpr ⟨by decide, isName⟩
    sourceName := isName
    segments
    names := List.forall_mem_map.mpr names
    accessors := List.forall_mem_map.mpr (behind "getThe" (by decide))
    mutators := List.forall_mem_map.mpr (behind "setThe" (by decide))
    types := List.forall_mem_map.mpr fun field member =>
      TypeRef.isOneLine_nullable (types field member) }

namespace Render

def headerLine (type : CompanionType) : String :=
  "// @generated by extractfield from `" ++ type.origin ++ "`. Do not edit."

theorem ended_headerLine (type : CompanionType) : headerLine type ++ "\n" = header type := by
  unfold headerLine header
  apply String.toList_injective
  simp

theorem lacks_headerLine {c : Char} (point : Lacks c ".") (front : Lacks c "// @generated by extractfield from `")
    (behind : Lacks c "`. Do not edit.") {type : CompanionType} (segments : ∀ segment ∈ type.space.segments, Lacks c segment)
    (sourceName : Lacks c type.sourceName) : Lacks c (headerLine type) := by
  have origin : Lacks c type.origin := Namespace.lacks_qualify point segments sourceName
  unfold headerLine
  rw [Text.lacks_append, Text.lacks_append]
  exact ⟨⟨front, origin⟩, behind⟩

theorem lacks_of_mem_propertyDocs {c : Char} (isBreak : IsBreak c) {property : Property} {line : String}
    (member : line ∈ propertyDocs property) : Lacks c line := by
  obtain ⟨first, rest, -, -, noFeed, noReturn⟩ := Rust.isDoc_of_mem_propertyDocs member
  refine isBreak.lacks ⟨fun inside => noFeed ?_, fun inside => noReturn ?_⟩
  · simp [inside]
  · simp [inside]

theorem forall_mem_members {type : CompanionType} {holds : Member → Prop}
    (each : ∀ property ∈ type.properties, ∀ member ∈ [.property property, .accessor property, .mutator property],
      holds member) :
    ∀ member ∈ type.members, holds member := by
  intro member isMember
  obtain isProperty | isMethod := List.mem_append.mp isMember
  · obtain ⟨property, inType, rfl⟩ := List.mem_map.mp isProperty
    exact each property inType _ (by simp)
  · obtain ⟨property, inType, ofProperty⟩ := List.mem_flatMap.mp isMethod
    exact each property inType member (List.mem_cons_of_mem _ ofProperty)

namespace Rust

def fieldLine (property : Property) : String :=
  "    " ++ identifier property.name ++ ": " ++ property.type.render ++ ","

/-- The line that begins the function that lends the value of a field. -/
def accessorLine (property : Property) : String :=
  "    pub fn " ++ property.accessor ++ "(&self) -> Option<&" ++ property.type.nonNull.render ++ "> \x7b"

/-- The line that begins the function that replaces the value of a field. -/
def mutatorLine (property : Property) : String :=
  "    pub fn " ++ property.mutator ++ "(&mut self, " ++ identifier property.name ++ ": " ++ property.type.render ++ ") \x7b"

def memberLines : Member → List String
  | .property property => (propertyDocs property).map ("    /// " ++ ·) ++ [fieldLine property]
  | .accessor property =>
      [accessorLine property, "        self." ++ identifier property.name ++ ".as_ref()", "    \x7d"]
  | .mutator property =>
      let name := identifier property.name
      [mutatorLine property, "        self." ++ name ++ " = " ++ name ++ ";", "    \x7d"]

/-- The line that lets the compiler accept the names. -/
def allowanceLine : String :=
  "#[allow(dead_code, non_snake_case)]"

def preambleLines (type : CompanionType) : List String :=
  [headerLine type, "", "/// Nullable companion of `" ++ type.sourceName ++ "`.", allowanceLine, "#[derive(Default)]"]

def implLines (type : CompanionType) : List String :=
  ["", allowanceLine, "impl " ++ type.name ++ " \x7b"] ++
    [""].intercalate ((type.properties.flatMap CompanionType.methodsOf).map memberLines) ++ ["\x7d"]

def bodyLines (type : CompanionType) : List String :=
  if type.isEmpty then ["pub struct " ++ type.name ++ " \x7b\x7d"]
  else
    ["pub struct " ++ type.name ++ " \x7b"] ++ ((type.properties.map Member.property).map memberLines).flatten ++
      ["\x7d"] ++ implLines type

def fileLines (type : CompanionType) : List String :=
  preambleLines type ++ bodyLines type

theorem ended_docLines (lines : List String) :
    ended (lines.map ("    /// " ++ ·)) = String.join (lines.map fun line => "    /// " ++ line ++ "\n") := by
  rw [ended, List.map_map]
  rfl

theorem ended_memberLines (member : Member) : ended (memberLines member) = Rust.member member := by
  cases member with
  | property property =>
      unfold memberLines Rust.member fieldLine field
      dsimp only
      rw [Text.ended_append, ended_docLines, Text.ended_cons, Text.ended_nil]
      apply String.toList_injective
      simp
  | accessor property =>
      unfold memberLines Rust.member accessorLine accessor
      dsimp only
      rw [Text.ended_cons, Text.ended_cons, Text.ended_cons, Text.ended_nil]
      apply String.toList_injective
      simp
  | mutator property =>
      unfold memberLines Rust.member mutatorLine mutator
      dsimp only
      rw [Text.ended_cons, Text.ended_cons, Text.ended_cons, Text.ended_nil]
      apply String.toList_injective
      simp

theorem ended_preambleLines (type : CompanionType) : ended (preambleLines type) = preamble type := by
  unfold preambleLines preamble allowanceLine allowance
  rw [Text.ended_cons, Text.ended_cons, Text.ended_cons, Text.ended_cons, Text.ended_cons, Text.ended_nil,
    ended_headerLine]
  apply String.toList_injective
  simp

theorem ended_membersLines (members : List Member) :
    (members.map memberLines).map ended = members.map Rust.member := by
  rw [List.map_map]
  exact List.map_congr_left fun member _ => ended_memberLines member

theorem ended_fileLines (type : CompanionType) : ended (fileLines type) = file type := by
  unfold fileLines bodyLines file
  rw [Text.ended_append, ended_preambleLines]
  split
  · rw [Text.ended_cons, Text.ended_nil]
    apply String.toList_injective
    simp
  · rw [partition_members]
    unfold implLines
    rw [Text.ended_append, Text.ended_append, Text.ended_append, Text.ended_append, Text.ended_append, Text.ended_flatten,
      Text.ended_intercalate, ended_membersLines, ended_membersLines]
    apply String.toList_injective
    simp [allowanceLine, allowance]

section Lacks

variable {c : Char} (isBreak : IsBreak c)

include isBreak

theorem lacks_identifier {name : String} (lacks : Lacks c name) : Lacks c (identifier name) := by
  unfold identifier
  split
  · exact Text.lacks_append.mpr ⟨isBreak.lacks (by decide), lacks⟩
  · exact lacks

theorem lacks_of_mem_memberLines {property : Property} (name : Lacks c property.name)
    (accessor : Lacks c property.accessor) (mutator : Lacks c property.mutator) (type : Lacks c property.type.render) :
    ∀ member ∈ [.property property, .accessor property, .mutator property],
      ∀ line ∈ memberLines member, Lacks c line := by
  have field : Lacks c (identifier property.name) := lacks_identifier isBreak name
  have value : Lacks c property.type.nonNull.render := TypeRef.lacks_nonNull type
  have docs : ∀ line ∈ (propertyDocs property).map ("    /// " ++ ·), Lacks c line :=
    List.forall_mem_map.mpr fun line member =>
      Text.lacks_append.mpr ⟨isBreak.lacks (by decide), lacks_of_mem_propertyDocs isBreak member⟩
  have ofField : Lacks c (fieldLine property) := by
    unfold fieldLine
    simp only [Text.lacks_append, and_assoc]
    exact ⟨isBreak.lacks (by decide), field, isBreak.lacks (by decide), type, isBreak.lacks (by decide)⟩
  have ofAccessor : Lacks c (accessorLine property) := by
    unfold accessorLine
    simp only [Text.lacks_append, and_assoc]
    exact ⟨isBreak.lacks (by decide), accessor, isBreak.lacks (by decide), value, isBreak.lacks (by decide)⟩
  have ofMutator : Lacks c (mutatorLine property) := by
    unfold mutatorLine
    simp only [Text.lacks_append, and_assoc]
    exact ⟨isBreak.lacks (by decide), mutator, isBreak.lacks (by decide), field, isBreak.lacks (by decide), type,
      isBreak.lacks (by decide)⟩
  have ofLending : Lacks c ("        self." ++ identifier property.name ++ ".as_ref()") := by
    simp only [Text.lacks_append, and_assoc]
    exact ⟨isBreak.lacks (by decide), field, isBreak.lacks (by decide)⟩
  have ofStoring : Lacks c ("        self." ++ identifier property.name ++ " = " ++ identifier property.name ++ ";") := by
    simp only [Text.lacks_append, and_assoc]
    exact ⟨isBreak.lacks (by decide), field, isBreak.lacks (by decide), field, isBreak.lacks (by decide)⟩
  have closing : Lacks c "    \x7d" := isBreak.lacks (by decide)
  intro member isMember line inside
  simp only [List.mem_cons, List.not_mem_nil, or_false] at isMember
  obtain rfl | rfl | rfl := isMember
  · exact (List.mem_append.mp inside).elim (docs line) fun isField => List.mem_singleton.mp isField ▸ ofField
  · simp only [memberLines, List.mem_cons, List.not_mem_nil, or_false] at inside
    obtain rfl | rfl | rfl := inside
    · exact ofAccessor
    · exact ofLending
    · exact closing
  · simp only [memberLines, List.mem_cons, List.not_mem_nil, or_false] at inside
    obtain rfl | rfl | rfl := inside
    · exact ofMutator
    · exact ofStoring
    · exact closing

/-- No line of a file has a character that breaks lines, unless it was put there. -/
theorem lacks_of_mem_fileLines {type : CompanionType} (lacks : type.Lacks c) : ∀ line ∈ fileLines type, Lacks c line := by
  have members : ∀ member ∈ type.members, ∀ line ∈ memberLines member, Lacks c line :=
    forall_mem_members fun property member =>
    lacks_of_mem_memberLines isBreak (lacks.names property member) (lacks.accessors property member)
      (lacks.mutators property member) (lacks.types property member)
  have header : Lacks c (headerLine type) := lacks_headerLine (isBreak.lacks (by decide)) (isBreak.lacks (by decide))
    (isBreak.lacks (by decide)) lacks.segments lacks.sourceName
  have name : Lacks c type.name := lacks.name
  have sourceName : Lacks c type.sourceName := lacks.sourceName
  have fields : ∀ line ∈ ((type.properties.map Member.property).map memberLines).flatten, Lacks c line := by
    intro line inside
    obtain ⟨part, isPart, inPart⟩ := List.mem_flatten.mp inside
    obtain ⟨member, isField, rfl⟩ := List.mem_map.mp isPart
    exact members member (List.mem_append_left _ isField) line inPart
  have blank : Lacks c "" := isBreak.lacks (by decide)
  have methods : ∀ line ∈ [""].intercalate ((type.properties.flatMap CompanionType.methodsOf).map memberLines),
      Lacks c line :=
    Text.forall_mem_intercalate blank
      (List.forall_mem_map.mpr fun member isMethod => members member (List.mem_append_right _ isMethod))
  have allowance : Lacks c allowanceLine := isBreak.lacks (by decide)
  have derive : Lacks c "#[derive(Default)]" := isBreak.lacks (by decide)
  have preamble : ∀ line ∈ preambleLines type, Lacks c line := by
    have summary : Lacks c ("/// Nullable companion of `" ++ type.sourceName ++ "`.") := by
      simp only [Text.lacks_append]
      exact ⟨⟨isBreak.lacks (by decide), sourceName⟩, isBreak.lacks (by decide)⟩
    simpa [preambleLines, blank, header, allowance, derive] using summary
  have struct : ∀ rest : String, Lacks c rest → ∀ line ∈ ["pub struct " ++ type.name ++ rest], Lacks c line := by
    intro rest isRest line isStruct
    rw [List.mem_singleton.mp isStruct, Text.lacks_append, Text.lacks_append]
    exact ⟨⟨isBreak.lacks (by decide), name⟩, isRest⟩
  have impl : ∀ line ∈ ["", allowanceLine, "impl " ++ type.name ++ " \x7b"], Lacks c line := by
    have opening : Lacks c ("impl " ++ type.name ++ " \x7b") := by
      simp only [Text.lacks_append]
      exact ⟨⟨isBreak.lacks (by decide), name⟩, isBreak.lacks (by decide)⟩
    exact List.forall_mem_cons.mpr ⟨blank, List.forall_mem_cons.mpr ⟨allowance, by simpa using opening⟩⟩
  have closing : ∀ line ∈ ["\x7d"], Lacks c line := List.forall_mem_singleton.mpr (isBreak.lacks (by decide))
  unfold fileLines bodyLines implLines
  split
  · exact List.forall_mem_append.mpr ⟨preamble, struct _ (isBreak.lacks (by decide))⟩
  · simp only [List.forall_mem_append]
    exact ⟨preamble, ⟨⟨struct _ (isBreak.lacks (by decide)), fields⟩, closing⟩, ⟨impl, methods⟩, closing⟩

end Lacks

theorem isOneLine_of_mem_fileLines {type : CompanionType} (unbroken : type.Unbroken) :
    ∀ line ∈ fileLines type, IsOneLine line :=
  lacks_of_mem_fileLines (.inl rfl) unbroken

end Rust

namespace Kotlin

def docLines (property : Property) : List String :=
  match (propertyDocs property).map commentText with
  | [] => []
  | lines => ["  /**"] ++ lines.map ("   * " ++ ·) ++ ["   */"]

def propertyLine (property : Property) : String :=
  "  private var " ++ identifier property.name ++ ": " ++ typeText property.type ++ " = null"

/-- The line that begins the function that returns a property. -/
def accessorLine (property : Property) : String :=
  "  fun " ++ property.accessor ++ "(): " ++ typeText property.type ++ " \x7b"

/-- The line that begins the function that replaces a property. -/
def mutatorLine (property : Property) : String :=
  "  fun " ++ property.mutator ++ "(" ++ identifier property.name ++ ": " ++ typeText property.type ++ ") \x7b"

def memberLines : Member → List String
  | .property property => docLines property ++ [propertyLine property]
  | .accessor property => [accessorLine property, "    return " ++ identifier property.name, "  \x7d"]
  | .mutator property =>
      let name := identifier property.name
      [mutatorLine property, "    this." ++ name ++ " = " ++ name, "  \x7d"]

/-- The line of the package, unless it is the root. -/
def packageLines (space : Namespace) : List String :=
  if space.isRoot then [] else ["package " ++ String.intercalate "." (space.segments.map identifier)]

def importsLines (imports : List Import) : List String :=
  if imports.isEmpty then [] else [""] ++ imports.map fun needed => "import " ++ needed.path

def preambleLines (type : CompanionType) : List String :=
  [headerLine type] ++ packageLines type.space ++ importsLines (importsOf (type.properties.map (·.type))) ++ [""]

def bodyLines (type : CompanionType) : List String :=
  if type.isEmpty then ["class " ++ type.name]
  else ["class " ++ type.name ++ " \x7b"] ++ [""].intercalate (type.members.map memberLines) ++ ["\x7d"]

def fileLines (type : CompanionType) : List String :=
  preambleLines type ++ bodyLines type

theorem ended_docLines (property : Property) : ended (docLines property) = docComment property := by
  unfold docLines docComment
  generalize (propertyDocs property).map commentText = lines
  cases lines with
  | nil => rfl
  | cons first others =>
      have starred : ended ((first :: others).map ("   * " ++ ·)) =
          String.join ((first :: others).map fun line => "   * " ++ line ++ "\n") := by
        rw [ended, List.map_map]
        rfl
      dsimp only
      rw [Text.ended_append, Text.ended_append, starred, Text.ended_cons, Text.ended_cons, Text.ended_nil]
      apply String.toList_injective
      simp

theorem ended_memberLines (member : Member) : ended (memberLines member) = Kotlin.member member := by
  cases member with
  | property p =>
      unfold memberLines Kotlin.member property propertyLine
      dsimp only
      rw [Text.ended_append, ended_docLines, Text.ended_cons, Text.ended_nil]
      apply String.toList_injective
      simp
  | accessor p =>
      unfold memberLines Kotlin.member accessorLine accessor
      dsimp only
      rw [Text.ended_cons, Text.ended_cons, Text.ended_cons, Text.ended_nil]
      apply String.toList_injective
      simp
  | mutator p =>
      unfold memberLines Kotlin.member mutatorLine mutator
      dsimp only
      rw [Text.ended_cons, Text.ended_cons, Text.ended_cons, Text.ended_nil]
      apply String.toList_injective
      simp

theorem ended_packageLines (space : Namespace) : ended (packageLines space) = packageLine space := by
  unfold packageLines packageLine
  split
  · rfl
  · rw [Text.ended_cons, Text.ended_nil, String.append_empty]

theorem ended_importsLines (imports : List Import) : ended (importsLines imports) = importLines imports := by
  unfold importsLines importLines
  split
  · rfl
  · rw [Text.ended_append, Text.ended_cons, Text.ended_nil, ended, List.map_map]
    rfl

theorem ended_preambleLines (type : CompanionType) : ended (preambleLines type) = preamble type := by
  unfold preambleLines preamble
  rw [Text.ended_append, Text.ended_append, Text.ended_append, ended_packageLines, ended_importsLines, Text.ended_cons,
    Text.ended_cons, Text.ended_nil, ended_headerLine, String.append_empty]
  rfl

theorem ended_fileLines (type : CompanionType) : ended (fileLines type) = file type := by
  have members : (type.members.map memberLines).map ended = type.members.map Kotlin.member := by
    rw [List.map_map]
    exact List.map_congr_left fun member _ => ended_memberLines member
  unfold fileLines bodyLines file
  rw [Text.ended_append, ended_preambleLines]
  split
  · rw [Text.ended_cons, Text.ended_nil, String.append_empty, String.append_assoc, String.append_assoc,
      String.append_assoc]
  · rw [Text.ended_append, Text.ended_append, Text.ended_intercalate, members, Text.ended_cons, Text.ended_cons,
      Text.ended_nil]
    apply String.toList_injective
    simp

end Kotlin

end Render

end Companion
