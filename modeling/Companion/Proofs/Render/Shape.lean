import Companion.Proofs.Render.KotlinLines

/-!
The shape that the files of a companion type have in both languages. Each member is declared in one line, and the lines
that declare members are those of `CompanionType.members`, in that order, with one type for each property.
-/

set_option autoImplicit false

namespace Companion

open Companion.Syntax (IsIdentifier)
open Companion.Text (IsOneLine ended endedLines)

namespace Render

def begins (front line : String) : Bool :=
  Text.startsWith line.toList front.toList

theorem begins_self (front rest : String) : begins front (front ++ rest) = true := by
  simp [begins, Text.startsWith]

/-- A line does not begin with a text that has another first character. -/
theorem not_begins (front : String) {line : String} (nonempty : front ≠ "") (differ : line.toList.head? ≠ front.toList.head?) :
    begins front line = false := by
  refine Bool.eq_false_iff.mpr fun leads => differ ?_
  obtain ⟨rest, whole⟩ := List.isPrefixOf_iff_prefix.mp leads
  rw [← whole]
  cases chars : front.toList with
  | nil => exact absurd (String.toList_eq_nil_iff.mp chars) nonempty
  | cons c others => rfl

theorem filter_begins_eq_nil {front : String} {lines : List String} (nonempty : front ≠ "")
    (differ : ∀ line ∈ lines, line.toList.head? ≠ front.toList.head?) : lines.filter (begins front) = [] :=
  List.filter_eq_nil_iff.mpr fun line inside => by simp [not_begins front nonempty (differ line inside)]

/-- Lines that are blank or begin with a blank do not begin with anything else. -/
theorem filter_begins_of_indented (front : String) {lines : List String} (notBlank : front.toList.head? ∉ [none, some ' '])
    (indented : ∀ line ∈ lines, line.toList.head? ∈ [none, some ' ']) : lines.filter (begins front) = [] := by
  refine filter_begins_eq_nil ?_ fun line inside same => notBlank (same ▸ indented line inside)
  rintro rfl
  simp at notBlank

/-- Groups of lines that begin with a blank, whether they follow each other at once or behind empty lines. -/
theorem indented_of_groups {groups : List (List String)}
    (indented : ∀ group ∈ groups, ∀ line ∈ group, line.toList.head? ∈ [none, some ' ']) :
    (∀ line ∈ groups.flatten, line.toList.head? ∈ [none, some ' ']) ∧
      ∀ line ∈ [""].intercalate groups, line.toList.head? ∈ [none, some ' '] := by
  constructor
  · intro line inside
    obtain ⟨group, isGroup, inGroup⟩ := List.mem_flatten.mp inside
    exact indented group isGroup line inGroup
  · exact Text.forall_mem_intercalate (by simp) indented

/-- What is sought in groups of lines is sought in each group, unless it is sought in the empty lines between them. -/
theorem filter_intercalate (test : String → Bool) (noBlank : test "" = false) (parts : List (List String)) :
    ([""].intercalate parts).filter test = parts.flatMap (List.filter test) := by
  induction parts with
  | nil => rfl
  | cons part others ih =>
      cases others with
      | nil => simp
      | cons next others =>
          rw [List.intercalate_cons_cons, List.filter_append, List.filter_append, ih, List.flatMap_cons]
          simp [noBlank]

/-- If one line of each group is sought, then these lines are sought in all groups. -/
theorem flatMap_filter {members : List Member} {linesOf : Member → List String} {test : String → Bool}
    {declaration : Member → String} (each : ∀ member ∈ members, (linesOf member).filter test = [declaration member]) :
    (members.map linesOf).flatMap (List.filter test) = members.map declaration := by
  induction members with
  | nil => rfl
  | cons member others ih =>
      obtain ⟨first, rest⟩ := List.forall_mem_cons.mp each
      rw [List.map_cons, List.map_cons, List.flatMap_cons, ih rest, first, List.singleton_append]

namespace Rust

/-- Whether a line begins with exactly four blanks, and then neither with documentation nor with a closing brace. -/
def isMemberLine (line : String) : Bool :=
  match line.toList with
  | ' ' :: ' ' :: ' ' :: ' ' :: rest =>
      !Text.startsWith rest " ".toList && !Text.startsWith rest "///".toList && !Text.startsWith rest "\x7d".toList
  | _ => false

def declaration : Member → String
  | .property property => fieldLine property
  | .accessor property => accessorLine property
  | .mutator property => mutatorLine property

/-- Whether a text is a name, or the name escaped because it is a keyword. -/
def Escapes (name text : String) : Prop :=
  text = name ∨ (name ∈ keywords ∧ text = "r#" ++ name)

theorem escapes_identifier (name : String) : Escapes name (identifier name) := by
  unfold identifier
  split
  · rename_i isKeyword
    exact .inr ⟨by simpa using isKeyword, rfl⟩
  · exact .inl rfl

theorem indented_memberLines (members : List Member) :
    ∀ group ∈ members.map memberLines, ∀ line ∈ group, line.toList.head? ∈ [none, some ' '] := by
  refine List.forall_mem_map.mpr fun member _ line inside => ?_
  cases member with
  | property property =>
      obtain isDoc | isField := List.mem_append.mp inside
      · obtain ⟨text, -, rfl⟩ := List.mem_map.mp isDoc
        simp
      · rw [List.mem_singleton.mp isField]
        unfold fieldLine
        simp
  | accessor property =>
      simp only [memberLines, List.mem_cons, List.not_mem_nil, or_false] at inside
      unfold accessorLine at inside
      obtain rfl | rfl | rfl := inside <;> simp
  | mutator property =>
      simp only [memberLines, List.mem_cons, List.not_mem_nil, or_false] at inside
      unfold mutatorLine at inside
      obtain rfl | rfl | rfl := inside <;> simp

/-- Four blanks in front of what can begin an identifier begin a line that declares a member. -/
theorem isMemberLine_of_starts {c : Char} (starts : Text.startsIdentifier c = true) {line : String}
    (begun : ∃ rest, line.toList = ' ' :: ' ' :: ' ' :: ' ' :: c :: rest) : isMemberLine line = true := by
  obtain ⟨rest, chars⟩ := begun
  have differs : ∀ other : Char, Text.startsIdentifier other = false → c ≠ other := by
    rintro other never rfl
    rw [starts] at never
    contradiction
  have noBlank : c ≠ ' ' := differs ' ' (by decide)
  have noSlash : c ≠ '/' := differs '/' (by decide)
  have noBrace : c ≠ '\x7d' := differs '\x7d' (by decide)
  unfold isMemberLine
  simp [chars, Text.startsWith, List.isPrefixOf_cons_cons, noBlank.symm, noSlash.symm, noBrace.symm]

theorem exists_toList_identifier {name : String} (isIdentifier : IsIdentifier name) :
    ∃ c rest, (identifier name).toList = c :: rest ∧ Text.startsIdentifier c = true := by
  obtain ⟨c, rest, chars, starts, -⟩ := isIdentifier
  unfold identifier
  split
  · exact ⟨'r', '#' :: name.toList, by simp, by decide⟩
  · exact ⟨c, rest, chars, starts⟩

theorem filter_memberLines {property : Property} (isIdentifier : IsIdentifier property.name) :
    ∀ member ∈ [.property property, .accessor property, .mutator property],
      (memberLines member).filter isMemberLine = [declaration member] := by
  have docs : ((propertyDocs property).map ("    /// " ++ ·)).filter isMemberLine = [] := by
    refine List.filter_eq_nil_iff.mpr fun line isDoc => ?_
    obtain ⟨text, -, rfl⟩ := List.mem_map.mp isDoc
    simp [isMemberLine, Text.startsWith]
  have function : Text.startsIdentifier 'p' = true := by decide
  have ofField : isMemberLine (fieldLine property) = true := by
    obtain ⟨c, rest, chars, starts⟩ := exists_toList_identifier isIdentifier
    refine isMemberLine_of_starts starts ⟨rest ++ (": " ++ property.type.render ++ ",").toList, ?_⟩
    unfold fieldLine
    simp [chars]
  have ofAccessor : isMemberLine (accessorLine property) = true := by
    refine isMemberLine_of_starts function ⟨("ub fn " ++ property.accessor ++ "(&self) -> Option<&" ++
      property.type.nonNull.render ++ "> \x7b").toList, ?_⟩
    unfold accessorLine
    simp
  have ofMutator : isMemberLine (mutatorLine property) = true := by
    refine isMemberLine_of_starts function ⟨("ub fn " ++ property.mutator ++ "(&mut self, " ++ identifier property.name ++
      ": " ++ property.type.render ++ ") \x7b").toList, ?_⟩
    unfold mutatorLine
    simp
  intro member inside
  simp only [List.mem_cons, List.not_mem_nil, or_false] at inside
  obtain rfl | rfl | rfl := inside
  · rw [memberLines, List.filter_append, docs, List.filter_cons_of_pos ofField]
    rfl
  · unfold memberLines
    rw [List.filter_cons_of_pos ofAccessor]
    simp [isMemberLine, Text.startsWith, declaration]
  · unfold memberLines
    dsimp only
    rw [List.filter_cons_of_pos ofMutator]
    simp [isMemberLine, Text.startsWith, declaration]

/-- The lines of a file that declare members are those of its members, in order. -/
theorem filter_isMemberLine {type : CompanionType} (named : ∀ property ∈ type.properties, IsIdentifier property.name) :
    (fileLines type).filter isMemberLine = type.members.map declaration := by
  have each := forall_mem_members fun property member => filter_memberLines (named property member)
  have fields := flatMap_filter fun member isField => each member (List.mem_append_left _ isField)
  have methods := flatMap_filter fun member isMethod => each member (List.mem_append_right _ isMethod)
  have header : isMemberLine (headerLine type) = false := by
    unfold headerLine
    simp [isMemberLine]
  have preamble : (preambleLines type).filter isMemberLine = [] := by
    have summary : isMemberLine ("/// Nullable companion of `" ++ type.sourceName ++ "`.") = false := by
      simp [isMemberLine]
    have fixed : ∀ line ∈ ["", allowanceLine, "#[derive(Default)]"], isMemberLine line = false := by decide
    simp [preambleLines, header, summary, fixed]
  unfold fileLines bodyLines implLines
  rw [List.filter_append, preamble, List.nil_append]
  split
  · rename_i isEmpty
    have none : type.properties = [] := List.isEmpty_iff.mp isEmpty
    simp [isMemberLine, CompanionType.members, none]
  · rw [List.filter_append, List.filter_append, List.filter_append, List.filter_append, List.filter_append,
      filter_intercalate isMemberLine (by decide), methods, List.filter_flatten, ← List.flatMap_def, fields]
    simp [isMemberLine, allowanceLine, CompanionType.members]

theorem filter_begins_preambleLines (type : CompanionType) {front : String}
    (differs : front.toList.head? ∉ [none, some '/', some '#']) : (preambleLines type).filter (begins front) = [] := by
  have heads : ∀ line ∈ preambleLines type, line.toList.head? ∈ [none, some '/', some '#'] := by
    unfold preambleLines headerLine allowanceLine
    simp
  refine filter_begins_eq_nil ?_ fun line inside same => differs (same ▸ heads line inside)
  rintro rfl
  simp at differs

variable (type : CompanionType)

/-- One line begins the structure, with a body only if the type has members. -/
theorem filter_struct : (fileLines type).filter (begins "pub struct ") =
    [if type.isEmpty then "pub struct " ++ type.name ++ " \x7b\x7d" else "pub struct " ++ type.name ++ " \x7b"] := by
  have fields := (indented_of_groups (indented_memberLines (type.properties.map .property))).1
  have methods := (indented_of_groups (indented_memberLines (type.properties.flatMap CompanionType.methodsOf))).2
  have impl : ["", allowanceLine, "impl " ++ type.name ++ " \x7b"].filter (begins "pub struct ") = [] :=
    filter_begins_eq_nil (by decide) (by simp [allowanceLine])
  have closing : ["\x7d"].filter (begins "pub struct ") = [] := filter_begins_eq_nil (by decide) (by decide)
  have own : ∀ rest : String, begins "pub struct " ("pub struct " ++ type.name ++ rest) = true := fun rest => by
    rw [String.append_assoc, begins_self]
  unfold fileLines bodyLines implLines
  rw [List.filter_append, filter_begins_preambleLines type (by decide), List.nil_append]
  split
  · rw [List.filter_cons_of_pos (own _), List.filter_nil]
  · simp only [List.filter_append, filter_begins_of_indented "pub struct " (by decide) fields,
      filter_begins_of_indented "pub struct " (by decide) methods, impl, closing, List.append_nil]
    rw [List.filter_cons_of_pos (own _), List.filter_nil]

/-- One line begins a block of functions if the type has members, and none does otherwise. -/
theorem filter_impl : (fileLines type).filter (begins "impl ") =
    if type.isEmpty then [] else ["impl " ++ type.name ++ " \x7b"] := by
  have fields := (indented_of_groups (indented_memberLines (type.properties.map .property))).1
  have methods := (indented_of_groups (indented_memberLines (type.properties.flatMap CompanionType.methodsOf))).2
  have struct : ∀ rest : String, ["pub struct " ++ type.name ++ rest].filter (begins "impl ") = [] := fun rest =>
    filter_begins_eq_nil (by decide) (by simp)
  have closing : ["\x7d"].filter (begins "impl ") = [] := filter_begins_eq_nil (by decide) (by decide)
  have own : begins "impl " ("impl " ++ type.name ++ " \x7b") = true := by
    rw [String.append_assoc, begins_self]
  unfold fileLines bodyLines implLines
  rw [List.filter_append, filter_begins_preambleLines type (by decide), List.nil_append]
  split
  · exact struct _
  · have front : ["", allowanceLine].filter (begins "impl ") = [] := filter_begins_eq_nil (by decide) (by simp [allowanceLine])
    have impl : ["", allowanceLine, "impl " ++ type.name ++ " \x7b"].filter (begins "impl ") =
        ["impl " ++ type.name ++ " \x7b"] := by
      have divided : ["", allowanceLine, "impl " ++ type.name ++ " \x7b"] =
          ["", allowanceLine] ++ ["impl " ++ type.name ++ " \x7b"] := rfl
      rw [divided, List.filter_append, front, List.filter_cons_of_pos own, List.filter_nil, List.nil_append]
    simp only [List.filter_append, filter_begins_of_indented "impl " (by decide) fields,
      filter_begins_of_indented "impl " (by decide) methods, struct, impl, closing, List.append_nil, List.nil_append]

end Rust

namespace Kotlin

/-- Whether a line begins as the declaration of a property or of a function does. -/
def isMemberLine (line : String) : Bool :=
  begins "  private var " line || begins "  fun " line

def declaration : Member → String
  | .property property => propertyLine property
  | .accessor property => accessorLine property
  | .mutator property => mutatorLine property

/-- Whether a text is a name, or the name quoted because it is a keyword. -/
def Escapes (name text : String) : Prop :=
  text = name ∨ (name ∈ hardKeywords ∧ text = "`" ++ name ++ "`")

theorem escapes_identifier (name : String) : Escapes name (identifier name) := by
  unfold identifier
  split
  · rename_i isKeyword
    exact .inr ⟨by simpa using isKeyword, rfl⟩
  · exact .inl rfl

theorem indented_memberLines (members : List Member) :
    ∀ group ∈ members.map memberLines, ∀ line ∈ group, line.toList.head? ∈ [none, some ' '] := by
  refine List.forall_mem_map.mpr fun member _ line inside => ?_
  cases member with
  | property property =>
      obtain isDoc | isProperty := List.mem_append.mp inside
      · unfold docLines at isDoc
        split at isDoc
        · contradiction
        · simp only [List.mem_append, List.mem_map, List.mem_singleton] at isDoc
          obtain (rfl | ⟨text, -, rfl⟩) | rfl := isDoc <;> simp
      · rw [List.mem_singleton.mp isProperty]
        unfold propertyLine
        simp
  | accessor property =>
      simp only [memberLines, List.mem_cons, List.not_mem_nil, or_false] at inside
      unfold accessorLine at inside
      obtain rfl | rfl | rfl := inside <;> simp
  | mutator property =>
      simp only [memberLines, List.mem_cons, List.not_mem_nil, or_false] at inside
      unfold mutatorLine at inside
      obtain rfl | rfl | rfl := inside <;> simp

theorem filter_memberLines (member : Member) : (memberLines member).filter isMemberLine = [declaration member] := by
  cases member with
  | property property =>
      have docs : (docLines property).filter isMemberLine = [] := by
        refine List.filter_eq_nil_iff.mpr fun line isDoc => ?_
        unfold docLines at isDoc
        split at isDoc
        · contradiction
        · simp only [List.mem_append, List.mem_map, List.mem_singleton] at isDoc
          obtain (rfl | ⟨text, -, rfl⟩) | rfl := isDoc <;>
            simp [isMemberLine, begins, Text.startsWith, List.isPrefixOf_cons_cons]
      have declares : isMemberLine (propertyLine property) = true := by
        unfold isMemberLine propertyLine
        simp only [String.append_assoc, begins_self, Bool.true_or]
      rw [memberLines, List.filter_append, docs, List.filter_cons_of_pos declares]
      rfl
  | accessor property =>
      have declares : isMemberLine (accessorLine property) = true := by
        unfold isMemberLine accessorLine
        simp only [String.append_assoc, begins_self, Bool.or_true]
      unfold memberLines
      rw [List.filter_cons_of_pos declares]
      simp [isMemberLine, begins, Text.startsWith, List.isPrefixOf_cons_cons, declaration]
  | mutator property =>
      have declares : isMemberLine (mutatorLine property) = true := by
        unfold isMemberLine mutatorLine
        simp only [String.append_assoc, begins_self, Bool.or_true]
      unfold memberLines
      dsimp only
      rw [List.filter_cons_of_pos declares]
      simp [isMemberLine, begins, Text.startsWith, List.isPrefixOf_cons_cons, declaration]

theorem head?_preambleLines (type : CompanionType) :
    ∀ line ∈ preambleLines type, line.toList.head? ∈ [none, some '/', some 'p', some 'i'] := by
  have package : ∀ line ∈ packageLines type.space, line.toList.head? = some 'p' := by
    unfold packageLines
    split <;> simp
  have imports : ∀ line ∈ importsLines (importsOf (type.properties.map (·.type))),
      line.toList.head? = none ∨ line.toList.head? = some 'i' := by
    unfold importsLines
    split <;> simp
  intro line inside
  unfold preambleLines headerLine at inside
  simp only [List.mem_append, List.mem_singleton] at inside
  obtain ((rfl | isPackage) | isImport) | rfl := inside
  · simp
  · simp [package line isPackage]
  · obtain isBlank | head := imports line isImport
    · simp [isBlank]
    · simp [head]
  · simp

variable (type : CompanionType)

/-- The lines of a file that declare members are those of its members, in order. -/
theorem filter_isMemberLine : (fileLines type).filter isMemberLine = type.members.map declaration := by
  have preamble : (preambleLines type).filter isMemberLine = [] := by
    have notBlank : some ' ' ∉ [none, some '/', some 'p', some 'i'] := by decide
    refine List.filter_eq_nil_iff.mpr fun line inside => ?_
    have differs : line.toList.head? ≠ some ' ' := fun same => notBlank (same ▸ head?_preambleLines type line inside)
    simp [isMemberLine, not_begins "  private var " (by decide) differs, not_begins "  fun " (by decide) differs]
  have opening : ∀ rest : String, ["class " ++ type.name ++ rest].filter isMemberLine = [] := fun rest => by
    simp [isMemberLine, begins, Text.startsWith, List.isPrefixOf_cons_cons]
  have closing : ["\x7d"].filter isMemberLine = [] := by decide
  have members : (type.members.map memberLines).flatMap (List.filter isMemberLine) = type.members.map declaration :=
    flatMap_filter fun member _ => filter_memberLines member
  unfold fileLines bodyLines
  rw [List.filter_append, preamble, List.nil_append]
  split
  · rename_i isEmpty
    have none : type.properties = [] := List.isEmpty_iff.mp isEmpty
    have noMember : type.members = [] := by simp [CompanionType.members, none]
    rw [noMember]
    simpa using opening ""
  · simp only [List.filter_append, opening, closing, filter_intercalate isMemberLine (by decide), members,
      List.append_nil, List.nil_append]

/-- One line begins the class, with a body only if the type has members. -/
theorem filter_class : (fileLines type).filter (begins "class ") =
    [if type.isEmpty then "class " ++ type.name else "class " ++ type.name ++ " \x7b"] := by
  have preamble : (preambleLines type).filter (begins "class ") = [] := by
    have other : some 'c' ∉ [none, some '/', some 'p', some 'i'] := by decide
    refine filter_begins_eq_nil (by decide) fun line inside same => other ?_
    have head : line.toList.head? = some 'c' := by simpa using same
    exact head ▸ head?_preambleLines type line inside
  have members := (indented_of_groups (indented_memberLines type.members)).2
  have closing : ["\x7d"].filter (begins "class ") = [] := filter_begins_eq_nil (by decide) (by decide)
  have own : begins "class " ("class " ++ type.name ++ " \x7b") = true := by
    rw [String.append_assoc, begins_self]
  unfold fileLines bodyLines
  rw [List.filter_append, preamble, List.nil_append]
  split
  · rw [List.filter_cons_of_pos (begins_self _ _), List.filter_nil]
  · simp only [List.filter_append, filter_begins_of_indented "class " (by decide) members, closing, List.append_nil]
    rw [List.filter_cons_of_pos own, List.filter_nil]

end Kotlin

/-- Lines in both languages that declare a member under its name, with the type of its property: in Rust that of an
optional value of a type, and in Kotlin a type that admits the absent value. -/
def DeclareAlike (value kotlinType rust kotlin : String) : Member → Prop
  | .property property => ∃ rustName kotlinName, Rust.Escapes property.name rustName ∧
      Kotlin.Escapes property.name kotlinName ∧
      rust = "    " ++ rustName ++ ": Option<" ++ value ++ ">," ∧
      kotlin = "  private var " ++ kotlinName ++ ": " ++ kotlinType ++ " = null"
  | .accessor property =>
      rust = "    pub fn " ++ property.accessor ++ "(&self) -> Option<&" ++ value ++ "> \x7b" ∧
      kotlin = "  fun " ++ property.accessor ++ "(): " ++ kotlinType ++ " \x7b"
  | .mutator property => ∃ rustName kotlinName, Rust.Escapes property.name rustName ∧
      Kotlin.Escapes property.name kotlinName ∧
      rust = "    pub fn " ++ property.mutator ++ "(&mut self, " ++ rustName ++ ": Option<" ++ value ++ ">) \x7b" ∧
      kotlin = "  fun " ++ property.mutator ++ "(" ++ kotlinName ++ ": " ++ kotlinType ++ ") \x7b"

/-- The three members of a field are declared alike, with one type in either language. -/
theorem declareAlike (field : Field) :
    ∃ kotlinType, kotlinType.toList.getLast? = some '?' ∧
      ∀ member ∈ [.property field.toProperty, .accessor field.toProperty, .mutator field.toProperty],
        DeclareAlike field.type.nullable.nonNull.render kotlinType (Rust.declaration member) (Kotlin.declaration member)
          member := by
  obtain ⟨value, isOptional⟩ := field.type.exists_nullable
  have type : field.toProperty.type = .optional value := isOptional
  refine ⟨Kotlin.typeText field.type.nullable, ?_, ?_⟩
  · rw [isOptional, Kotlin.typeText]
    exact Kotlin.getLast?_nullableText _
  · have name := Rust.escapes_identifier field.name
    have quoted := Kotlin.escapes_identifier field.name
    have whole : field.toProperty.type.render = "Option<" ++ field.type.nullable.nonNull.render ++ ">" := by
      rw [type, isOptional, TypeRef.nonNull, TypeRef.render]
    intro member inside
    simp only [List.mem_cons, List.not_mem_nil, or_false] at inside
    obtain rfl | rfl | rfl := inside
    · refine ⟨_, _, name, quoted, ?_, rfl⟩
      unfold Rust.declaration Rust.fieldLine
      dsimp only
      rw [whole]
      simp only [String.append_assoc]
      rfl
    · exact ⟨rfl, rfl⟩
    · refine ⟨_, _, name, quoted, ?_, rfl⟩
      unfold Rust.declaration Rust.mutatorLine
      dsimp only
      rw [whole]
      simp only [String.append_assoc]
      rfl

/-- The two files of a companion type have one shape. The lines that declare members are those of its members, in order:
the properties, and then for each of them its accessor and its mutator. All three have the same type in either language.
Without fields no member is declared, no block of functions is begun, and neither structure nor class has a body. -/
theorem render_declares {name : String} {space : Namespace} {fields : List Field} (isIdentifier : IsIdentifier name)
    (segments : ∀ segment ∈ space.segments, IsIdentifier segment) (named : ∀ field ∈ fields, IsIdentifier field.name)
    (oneLine : ∀ field ∈ fields, IsOneLine field.type.render) :
    let type := synthesize name space fields
    let rust := endedLines (type.render .rust)
    let kotlin := endedLines (type.render .kotlin)
    rust.filter Rust.isMemberLine = type.members.map Rust.declaration ∧
      kotlin.filter Kotlin.isMemberLine = type.members.map Kotlin.declaration ∧
      type.members.length = 3 * fields.length ∧
      type.members = fields.map (fun field => .property field.toProperty) ++
        fields.flatMap (fun field => [.accessor field.toProperty, .mutator field.toProperty]) ∧
      (∀ field ∈ fields, ∃ kotlinType, kotlinType.toList.getLast? = some '?' ∧
        ∀ member ∈ [.property field.toProperty, .accessor field.toProperty, .mutator field.toProperty],
          DeclareAlike field.type.nullable.nonNull.render kotlinType (Rust.declaration member)
            (Kotlin.declaration member) member) ∧
      rust.filter (begins "pub struct ") = (if fields = [] then ["pub struct " ++ type.name ++ " \x7b\x7d"]
        else ["pub struct " ++ type.name ++ " \x7b"]) ∧
      rust.filter (begins "impl ") = (if fields = [] then [] else ["impl " ++ type.name ++ " \x7b"]) ∧
      kotlin.filter (begins "class ") = if fields = [] then ["class " ++ type.name] else ["class " ++ type.name ++ " \x7b"] := by
  intro type rust kotlin
  have unbroken : type.Unbroken := unbroken_synthesize isIdentifier.isOneLine
    (fun segment member => (segments segment member).isOneLine) (fun field member => (named field member).isOneLine) oneLine
  have rustLines : rust = Rust.fileLines type := by
    have text : type.render .rust = ended (Rust.fileLines type) := (Rust.ended_fileLines type).symm
    unfold rust
    rw [text, Text.endedLines_ended (Rust.isOneLine_of_mem_fileLines unbroken)]
  have kotlinLines : kotlin = Kotlin.fileLines type := by
    have text : type.render .kotlin = ended (Kotlin.fileLines type) := (Kotlin.ended_fileLines type).symm
    unfold kotlin
    rw [text, Text.endedLines_ended (Kotlin.isOneLine_of_mem_fileLines unbroken)]
  have members : type.members = fields.map (fun field => .property field.toProperty) ++
      fields.flatMap (fun field => [.accessor field.toProperty, .mutator field.toProperty]) := by
    simp [type, CompanionType.members, synthesize, List.flatMap_map, CompanionType.methodsOf, Function.comp_def]
  have identifiers : ∀ property ∈ type.properties, IsIdentifier property.name := List.forall_mem_map.mpr named
  have isEmpty : type.isEmpty = true ↔ fields = [] := by
    simp [type, CompanionType.isEmpty, synthesize]
  rw [rustLines, kotlinLines, Rust.filter_isMemberLine identifiers, Kotlin.filter_isMemberLine, Rust.filter_struct,
    Rust.filter_impl, Kotlin.filter_class]
  refine ⟨rfl, rfl, ?_, members, fun field _ => declareAlike field, ?_, ?_, ?_⟩
  · rw [members, List.length_append, List.length_map, List.length_flatMap]
    simp only [List.length_cons, List.length_nil, List.map_const', List.sum_replicate_nat]
    omega
  · simp only [isEmpty]
    split <;> rfl
  · simp only [isEmpty]
  · simp only [isEmpty]
    split <;> rfl

/-- Fields whose names are keywords of one of the languages, one of them of an optional type. -/
def keywordFields : List Field :=
  [⟨"type", .string, ["What it is."]⟩, ⟨"fun", .optional (.list (.scalar .u64)), []⟩]

theorem render_declares_keywords :
    let type := synthesize "User" ⟨["app"], by decide⟩ keywordFields
    (endedLines (type.render .rust)).filter Rust.isMemberLine =
        ["    r#type: Option<String>,",
          "    fun: Option<Vec<u64>>,",
          "    pub fn getThetype(&self) -> Option<&String> \x7b",
          "    pub fn setThetype(&mut self, r#type: Option<String>) \x7b",
          "    pub fn getThefun(&self) -> Option<&Vec<u64>> \x7b",
          "    pub fn setThefun(&mut self, fun: Option<Vec<u64>>) \x7b"] ∧
      (endedLines (type.render .kotlin)).filter Kotlin.isMemberLine =
        ["  private var type: String? = null",
          "  private var `fun`: List<ULong>? = null",
          "  fun getThetype(): String? \x7b",
          "  fun setThetype(type: String?) \x7b",
          "  fun getThefun(): List<ULong>? \x7b",
          "  fun setThefun(`fun`: List<ULong>?) \x7b"] := by
  have declares := render_declares (show IsIdentifier "User" by decide)
    (show ∀ segment ∈ Namespace.segments ⟨["app"], by decide⟩, IsIdentifier segment by decide)
    (show ∀ field ∈ keywordFields, IsIdentifier field.name by decide)
    (show ∀ field ∈ keywordFields, IsOneLine field.type.render by decide)
  exact ⟨declares.1.trans (by decide +kernel), declares.2.1.trans (by decide +kernel)⟩

end Render

end Companion
