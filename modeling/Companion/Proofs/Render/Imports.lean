import Companion.Proofs.Render.KotlinLines

set_option autoImplicit false

namespace Companion.Render.Kotlin

open Companion.Text (Contains IsOneLine endedLines)

theorem anyMentionsBigInteger_eq_any (types : List TypeRef) : anyMentionsBigInteger types = types.any mentionsBigInteger := by
  induction types with
  | nil => rfl
  | cons type others ih => rw [anyMentionsBigInteger, List.any_cons, ih]

/-- The text of a type has the name that is to be imported exactly if the type is found to mention it. -/
theorem contains_bigInteger_iff {type : TypeRef}
    (paths : ∀ path ∈ type.paths, path ≠ [] ∧ ∀ segment ∈ path, ¬ Contains segment "BigInteger") :
    Contains (typeText type) "BigInteger" ↔ mentionsBigInteger type = true := by
  induction type using TypeRef.nested with
  | scalar primitive => cases primitive <;> decide
  | string => decide
  | list element ih =>
      have noName : ¬ Contains "List" "BigInteger" := by decide
      have divided : typeText (.list element) = "List" ++ "<" ++ typeText element ++ ">" := rfl
      rw [divided, contains_angled (by decide) (by decide) (by decide), ih paths, mentionsBigInteger]
      simp only [noName, false_or]
  | optional value ih =>
      rw [typeText, contains_nullableText (by decide) (by decide), ih paths, mentionsBigInteger]
  | named path arguments ih =>
      obtain ⟨⟨somePath, own⟩, inside⟩ := TypeRef.forall_mem_paths_named.mp paths
      have ofArguments : (∃ text ∈ arguments.map typeText, Contains text "BigInteger") ↔
          mentionsBigInteger (.named path arguments) = true := by
        rw [mentionsBigInteger, anyMentionsBigInteger_eq_any, List.any_eq_true]
        constructor
        · rintro ⟨_, isText, found⟩
          obtain ⟨argument, member, rfl⟩ := List.mem_map.mp isText
          exact ⟨argument, member, (ih argument member (inside argument member)).mp found⟩
        · rintro ⟨argument, member, mentions⟩
          exact ⟨_, List.mem_map_of_mem member, (ih argument member (inside argument member)).mpr mentions⟩
      have given : ∀ name ∈ ["Set", "List", "Map"], ¬ Contains name "BigInteger" := by decide
      rw [← ofArguments, typeText, typeTexts_eq_map]
      obtain ⟨noPath, -⟩ | ⟨inner, alone, text⟩ | ⟨name, isName, text⟩ := namedText_cases path (arguments.map typeText)
      · exact absurd noPath somePath
      · -- A smart pointer is written as its only argument, so its text leaves out nothing that is searched.
        rw [text, alone]
        simp
      · have noName : ¬ Contains name "BigInteger" := isName.elim (own name) (given name)
        rw [text, contains_applied (by decide) (by simp)]
        simp only [noName, false_or]
  | verbatim text =>
      rw [typeText, mentionsBigInteger]
      decide

/-- The import of a file is that of the type, if the text of any property's type has its name. -/
theorem importsOf_eq {types : List TypeRef}
    (paths : ∀ type ∈ types, ∀ path ∈ type.paths, path ≠ [] ∧ ∀ segment ∈ path, ¬ Contains segment "BigInteger") :
    importsOf types = if ∃ type ∈ types, Contains (typeText type) "BigInteger" then [.bigInteger] else [] := by
  have agrees : types.any mentionsBigInteger = true ↔ ∃ type ∈ types, Contains (typeText type) "BigInteger" := by
    rw [List.any_eq_true]
    exact exists_congr fun type => and_congr_right fun member => (contains_bigInteger_iff (paths type member)).symm
  unfold importsOf
  simp only [agrees]

def importLine : String :=
  "import java.math.BigInteger"

/-- Whether a line begins, behind white space or without any, with the word that imports. -/
def isImportLine (line : String) : Bool :=
  Text.startsWith (Text.trimFront line.toList) "import".toList

theorem not_import {front : String} (other : (Text.trimFront front.toList).head? ∉ [none, some 'i']) (rest : String) :
    isImportLine (front ++ rest) = false := by
  cases trimmed : Text.trimFront front.toList with
  | nil => simp [trimmed] at other
  | cons c others =>
      have differs : ¬ 'i' = c := by
        rintro rfl
        simp [trimmed] at other
      have whole : Text.trimFront (front ++ rest).toList = c :: (others ++ rest.toList) := by
        unfold Text.trimFront at trimmed ⊢
        rw [String.toList_append, List.dropWhile_append, trimmed]
        rfl
      rw [isImportLine, whole]
      simp [Text.startsWith, List.isPrefixOf_cons_cons, differs]

theorem not_import_of_mem_docLines (property : Property) : ∀ line ∈ docLines property, isImportLine line = false := by
  have fixed : ∀ line ∈ ["  /**", "   */"], isImportLine line = false := by decide
  unfold docLines
  split
  · simp
  · simp only [List.forall_mem_append, List.forall_mem_map, List.forall_mem_singleton]
    have starred : ∀ text : String, isImportLine ("   * " ++ text) = false := not_import (by decide)
    exact ⟨⟨fixed _ (by simp), fun text _ => starred (commentText text)⟩, fixed _ (by simp)⟩

theorem not_import_of_mem_memberLines (member : Member) : ∀ line ∈ memberLines member, isImportLine line = false := by
  have closing : isImportLine "  \x7d" = false := by decide
  cases member with
  | property property =>
      have declares : isImportLine (propertyLine property) = false := by
        unfold propertyLine
        simp only [String.append_assoc]
        exact not_import (by decide) _
      exact List.forall_mem_append.mpr ⟨not_import_of_mem_docLines property, List.forall_mem_singleton.mpr declares⟩
  | accessor property =>
      have declares : isImportLine (accessorLine property) = false := by
        unfold accessorLine
        simp only [String.append_assoc]
        exact not_import (by decide) _
      simp only [memberLines, List.forall_mem_cons, List.not_mem_nil, false_implies, implies_true, and_true]
      exact ⟨declares, not_import (by decide) _, closing⟩
  | mutator property =>
      have declares : isImportLine (mutatorLine property) = false := by
        unfold mutatorLine
        simp only [String.append_assoc]
        exact not_import (by decide) _
      have stores : ∀ name : String, isImportLine ("    this." ++ name ++ " = " ++ name) = false := fun name => by
        simp only [String.append_assoc]
        exact not_import (by decide) _
      simp only [memberLines, List.forall_mem_cons, List.not_mem_nil, false_implies, implies_true, and_true]
      exact ⟨declares, stores _, closing⟩

/-- What stands behind the line that begins the class. -/
def innerLines (type : CompanionType) : List String :=
  if type.isEmpty then [] else [""].intercalate (type.members.map memberLines) ++ ["\x7d"]

theorem bodyLines_eq (type : CompanionType) : bodyLines type = [classLine type] ++ innerLines type := by
  unfold bodyLines classLine innerLines
  split
  · rfl
  · rw [List.append_assoc]

theorem not_import_of_mem_bodyLines (type : CompanionType) : ∀ line ∈ bodyLines type, isImportLine line = false := by
  have opening : isImportLine (classLine type) = false := by
    unfold classLine
    split
    · exact not_import (by decide) _
    · rw [String.append_assoc]
      exact not_import (by decide) _
  have inner : ∀ line ∈ innerLines type, isImportLine line = false := by
    have fixed : ∀ line ∈ ["", "\x7d"], isImportLine line = false := by decide
    unfold innerLines
    split
    · simp
    · refine List.forall_mem_append.mpr ⟨?_, List.forall_mem_singleton.mpr (fixed _ (by simp))⟩
      exact Text.forall_mem_intercalate (fixed _ (by simp))
        (List.forall_mem_map.mpr fun member _ => not_import_of_mem_memberLines member)
  rw [bodyLines_eq]
  exact List.forall_mem_append.mpr ⟨List.forall_mem_singleton.mpr opening, inner⟩

theorem filter_isImportLine (type : CompanionType) : (fileLines type).filter isImportLine =
    (importsOf (type.properties.map (·.type))).map fun needed => "import " ++ needed.path := by
  have header : isImportLine (headerLine type) = false := by
    unfold headerLine
    rw [String.append_assoc]
    exact not_import (by decide) _
  have package : (packageLines type.space).filter isImportLine = [] := by
    unfold packageLines
    split
    · rfl
    · rw [List.filter_cons_of_neg (by simpa using not_import (by decide) _), List.filter_nil]
  have body : (bodyLines type).filter isImportLine = [] :=
    List.filter_eq_nil_iff.mpr fun line inside => by simp [not_import_of_mem_bodyLines type line inside]
  have imports : (importsLines (importsOf (type.properties.map (·.type)))).filter isImportLine =
      (importsOf (type.properties.map (·.type))).map fun needed => "import " ++ needed.path := by
    unfold importsOf
    split <;> decide
  unfold fileLines preambleLines
  rw [List.filter_append, List.filter_append, List.filter_append, List.filter_append, package, imports, body,
    List.filter_cons_of_neg (by simp [header]), List.filter_nil, List.nil_append, List.nil_append, List.append_nil]
  exact List.append_nil _

/-- A Kotlin file imports exactly what the texts of its types need. If the text of a property's type has the name of the
type that is imported, then one line imports it, between the line of the package and that of the class, and otherwise none.
No other line imports anything. -/
theorem render_imports {name : String} {space : Namespace} {fields : List Field} (isName : IsOneLine name)
    (segments : ∀ segment ∈ space.segments, IsOneLine segment) (names : ∀ field ∈ fields, IsOneLine field.name)
    (paths : ∀ field ∈ fields, ∀ path ∈ field.type.paths,
      path ≠ [] ∧ ∀ segment ∈ path, IsOneLine segment ∧ ¬ Contains segment "BigInteger") :
    let type := synthesize name space fields
    let lines := endedLines (type.render .kotlin)
    let needed := ∃ property ∈ type.properties, Contains (typeText property.type) "BigInteger"
    (importLine ∈ lines ↔ needed) ∧
      lines.filter isImportLine = (if needed then [importLine] else []) ∧
      lines = [headerLine type] ++ packageLines space ++ (if needed then ["", importLine] else []) ++
        ["", classLine type] ++ innerLines type := by
  intro type lines needed
  have oneLine : type.LacksInKotlin '\n' := lacksInKotlin_synthesize isName segments names
    fun field member path isPath segment inPath => ((paths field member path isPath).2 segment inPath).1
  have whole : lines = fileLines type := endedLines_render oneLine
  have imports : importsOf (type.properties.map (·.type)) = if needed then [.bigInteger] else [] := by
    have plain : ∀ given ∈ type.properties.map (·.type), ∀ path ∈ given.paths,
        path ≠ [] ∧ ∀ segment ∈ path, ¬ Contains segment "BigInteger" := by
      refine List.forall_mem_map.mpr (List.forall_mem_map.mpr fun field member => ?_)
      rw [Field.toProperty, TypeRef.paths_nullable]
      exact fun path isPath => (paths field member path isPath).imp_right fun each segment inPath => (each segment inPath).2
    have anyProperty : (∃ given ∈ type.properties.map (·.type), Contains (typeText given) "BigInteger") ↔ needed :=
      by simp [needed, List.mem_map]
    rw [importsOf_eq plain]
    simp only [anyProperty]
  have filtered : lines.filter isImportLine = if needed then [importLine] else [] := by
    rw [whole, filter_isImportLine, imports]
    split <;> rfl
  refine ⟨?_, filtered, ?_⟩
  · have isImport : isImportLine importLine = true := by decide
    have member : importLine ∈ lines ↔ importLine ∈ lines.filter isImportLine := by
      rw [List.mem_filter, and_iff_left isImport]
    rw [member, filtered]
    split
    · rename_i isNeeded
      simp [isNeeded]
    · rename_i notNeeded
      simp [notNeeded]
  · rw [whole, fileLines, preambleLines, bodyLines_eq, imports]
    split
    · simp [importsLines, importLine, Import.path, type, synthesize]
    · simp [importsLines, type, synthesize]

/-- Fields of which one needs the import below a smart pointer and a collection, and another has the name only in a text
that is kept as it stands. -/
def importingFields : List Field :=
  [⟨"total", .named ["Box"] [.named ["std", "HashMap"] [.string, .optional (.scalar .u128)]], []⟩,
    ⟨"shape", .verbatim "[BigInteger; 4]", ["import java.math.BigInteger"]⟩]

theorem render_imports_one :
    let lines := endedLines ((synthesize "User" ⟨["app"], by decide⟩ importingFields).render .kotlin)
    importLine ∈ lines ∧ lines.filter isImportLine = [importLine] ∧
      lines.take 6 = [headerLine (synthesize "User" ⟨["app"], by decide⟩ importingFields), "package app", "", importLine, "",
        "class ExtractFieldUser \x7b"] := by
  intro lines
  obtain ⟨member, filtered, shape⟩ := render_imports (show IsOneLine "User" by decide)
    (show ∀ segment ∈ Namespace.segments ⟨["app"], by decide⟩, IsOneLine segment by decide)
    (show ∀ field ∈ importingFields, IsOneLine field.name by decide)
    (show ∀ field ∈ importingFields, ∀ path ∈ field.type.paths,
      path ≠ [] ∧ ∀ segment ∈ path, IsOneLine segment ∧ ¬ Contains segment "BigInteger" by decide)
  have needed : ∃ property ∈ (synthesize "User" ⟨["app"], by decide⟩ importingFields).properties,
      Contains (typeText property.type) "BigInteger" := by decide +kernel
  refine ⟨member.mpr needed, filtered.trans (if_pos needed), ?_⟩
  unfold lines
  rw [shape, if_pos needed]
  rfl

end Companion.Render.Kotlin
