import Companion.Proofs.Render.Shape
import Mathlib.Data.List.Basic
import Mathlib.Data.List.TakeWhile

/-!
Documentation in Rust files. It stands in lines of its own, directly above the field that it belongs to, and nothing else in
the file depends on it: without these lines the file is that of the same type without documentation. So whatever the
documentation of a field holds, none of it is code.
-/

set_option autoImplicit false

namespace Companion

open Companion.Syntax (IsIdentifier)
open Companion.Text (IsBreak Lacks ended endedLines)

def CompanionType.withoutDocs (type : CompanionType) : CompanionType :=
  { type with properties := type.properties.map fun property => { property with docs := [] } }

/-- Whether the names in a type are identifiers, and nothing else that is put into its file breaks a line. Documentation may
hold anything. -/
structure CompanionType.Printable (type : CompanionType) : Prop where
  name : IsIdentifier type.name
  sourceName : IsIdentifier type.sourceName
  segments : ∀ segment ∈ type.space.segments, Text.Lacks '\n' segment ∧ Text.Lacks '\r' segment
  names : ∀ property ∈ type.properties, IsIdentifier property.name
  accessors : ∀ property ∈ type.properties, IsIdentifier property.accessor
  mutators : ∀ property ∈ type.properties, IsIdentifier property.mutator
  types : ∀ property ∈ type.properties, Text.Lacks '\n' property.type.render ∧ Text.Lacks '\r' property.type.render

theorem CompanionType.Printable.lacks {type : CompanionType} (printable : type.Printable) {c : Char} (isBreak : IsBreak c) :
    type.Lacks c where
  name := printable.name.lacks isBreak
  sourceName := printable.sourceName.lacks isBreak
  segments segment member := isBreak.lacks (printable.segments segment member)
  names property member := (printable.names property member).lacks isBreak
  accessors property member := (printable.accessors property member).lacks isBreak
  mutators property member := (printable.mutators property member).lacks isBreak
  types property member := isBreak.lacks (printable.types property member)

namespace Render

def isBlankText (text : String) : Bool :=
  text.toList.all Text.isBlank

/-- The pieces of documentation between line feeds and carriage returns that are not blank, without the white space at their
ends. -/
def docPieces (property : Property) : List String :=
  property.docs.flatMap fun doc =>
    ((Text.split (fun c => c == '\r' || c == '\n') doc).filter fun piece => !isBlankText piece).map Text.trimEnd

theorem trimEnd_eq_empty_iff (text : String) : Text.trimEnd text = "" ↔ isBlankText text = true := by
  have empty : Text.trimEnd text = "" ↔ text.toList.reverse.dropWhile Text.isBlank = [] := by
    rw [Text.trimEnd, Text.trimBack, ← String.toList_inj]
    simp
  rw [empty, List.dropWhile_eq_nil_iff]
  simp [isBlankText]

/-- The lines of documentation are the pieces that are not blank. -/
theorem propertyDocs_eq (property : Property) : propertyDocs property = docPieces property := by
  have each : ∀ doc, docLines doc =
      ((Text.split (fun c => c == '\r' || c == '\n') doc).filter fun piece => !isBlankText piece).map Text.trimEnd := by
    intro doc
    have same : ((fun line => decide (line ≠ "")) ∘ Text.trimEnd) = fun piece => !isBlankText piece := by
      funext piece
      cases blank : isBlankText piece with
      | true => simp [(trimEnd_eq_empty_iff piece).mpr blank]
      | false =>
          have notEmpty : Text.trimEnd piece ≠ "" := fun isEmpty => by
            simp [(trimEnd_eq_empty_iff piece).mp isEmpty] at blank
          simp [notEmpty]
    rw [docLines, List.filter_map, same]
    rfl
  unfold propertyDocs docPieces
  exact List.flatMap_congr fun doc _ => each doc

namespace Rust

def docFront : String :=
  "    /// "

def topLines (type : CompanionType) : List String :=
  preambleLines type ++ [if type.isEmpty then "pub struct " ++ type.name ++ " \x7b\x7d" else "pub struct " ++ type.name ++ " \x7b"]

def bottomLines (type : CompanionType) : List String :=
  if type.isEmpty then [] else "\x7d" :: implLines type

theorem fileLines_eq (type : CompanionType) :
    fileLines type = topLines type ++ type.properties.flatMap (fun property => memberLines (.property property)) ++
      bottomLines type := by
  unfold fileLines bodyLines topLines bottomLines
  split
  · rename_i isEmpty
    have none : type.properties = [] := List.isEmpty_iff.mp isEmpty
    simp [none]
  · rw [List.flatMap_def, List.map_map]
    simp [Function.comp_def]

theorem begins_docFront_fieldLine {property : Property} (isIdentifier : IsIdentifier property.name) :
    begins docFront (fieldLine property) = false := by
  obtain ⟨c, rest, chars, starts⟩ := exists_toList_identifier isIdentifier
  have noSlash : '/' ≠ c := by
    rintro rfl
    exact absurd starts (by decide)
  unfold begins fieldLine docFront
  simp [chars, Text.startsWith, List.isPrefixOf_cons_cons, noSlash]

theorem begins_docFront_topLines (type : CompanionType) : ∀ line ∈ topLines type, begins docFront line = false := by
  have noMark : (preambleLines type).filter (begins docFront) = [] := filter_begins_preambleLines type (by decide)
  have preamble := List.filter_eq_nil_iff.mp noMark
  have struct : ∀ rest : String, begins docFront ("pub struct " ++ type.name ++ rest) = false := fun rest =>
    not_begins docFront (by decide) (by simp [docFront])
  unfold topLines
  refine List.forall_mem_append.mpr ⟨fun line inside => by simpa using preamble line inside, ?_⟩
  refine List.forall_mem_singleton.mpr ?_
  split
  · exact struct _
  · exact struct _

theorem begins_docFront_bottomLines (type : CompanionType) : ∀ line ∈ bottomLines type, begins docFront line = false := by
  have methods : ∀ line ∈ [""].intercalate ((type.properties.flatMap CompanionType.methodsOf).map memberLines),
      begins docFront line = false := by
    refine Text.forall_mem_intercalate (by decide) (List.forall_mem_map.mpr fun member isMethod line inPart => ?_)
    obtain ⟨property, -, ofProperty⟩ := List.mem_flatMap.mp isMethod
    simp only [CompanionType.methodsOf, List.mem_cons, List.not_mem_nil, or_false] at ofProperty
    obtain rfl | rfl := ofProperty
    · simp only [memberLines, List.mem_cons, List.not_mem_nil, or_false] at inPart
      unfold accessorLine at inPart
      obtain rfl | rfl | rfl := inPart <;> simp [begins, docFront, Text.startsWith, List.isPrefixOf_cons_cons]
    · simp only [memberLines, List.mem_cons, List.not_mem_nil, or_false] at inPart
      unfold mutatorLine at inPart
      obtain rfl | rfl | rfl := inPart <;> simp [begins, docFront, Text.startsWith, List.isPrefixOf_cons_cons]
  have impl : begins docFront ("impl " ++ type.name ++ " \x7b") = false := not_begins docFront (by decide) (by simp [docFront])
  have closing : ∀ line ∈ ["\x7d"], begins docFront line = false := by decide
  have opening : ∀ line ∈ ["", allowanceLine, "impl " ++ type.name ++ " \x7b"], begins docFront line = false := by
    have fixed : ∀ line ∈ ["", allowanceLine], begins docFront line = false := by decide
    exact List.forall_mem_append.mpr ⟨fixed, List.forall_mem_singleton.mpr impl⟩
  unfold bottomLines implLines
  split
  · simp
  · exact List.forall_mem_cons.mpr ⟨by decide, List.forall_mem_append.mpr ⟨List.forall_mem_append.mpr ⟨opening, methods⟩, closing⟩⟩

theorem filter_fieldLines {property : Property} (isIdentifier : IsIdentifier property.name) :
    (memberLines (.property property)).filter (fun line => !begins docFront line) = [fieldLine property] := by
  have docs : ((propertyDocs property).map ("    /// " ++ ·)).filter (fun line => !begins docFront line) = [] := by
    refine List.filter_eq_nil_iff.mpr fun line isDoc => ?_
    obtain ⟨text, -, rfl⟩ := List.mem_map.mp isDoc
    have isMarked : begins docFront ("    /// " ++ text) = true := begins_self docFront text
    simp [isMarked]
  rw [memberLines, List.filter_append, docs]
  simp [begins_docFront_fieldLine isIdentifier]

theorem topLines_withoutDocs (type : CompanionType) : topLines type.withoutDocs = topLines type := by
  have isEmpty : type.withoutDocs.isEmpty = type.isEmpty := List.isEmpty_map
  unfold topLines
  rw [isEmpty]
  rfl

theorem bottomLines_withoutDocs (type : CompanionType) : bottomLines type.withoutDocs = bottomLines type := by
  have isEmpty : type.withoutDocs.isEmpty = type.isEmpty := List.isEmpty_map
  have methods : (type.withoutDocs.properties.flatMap CompanionType.methodsOf).map memberLines =
      (type.properties.flatMap CompanionType.methodsOf).map memberLines := by
    rw [CompanionType.withoutDocs, List.flatMap_map, List.map_flatMap, List.map_flatMap]
    rfl
  unfold bottomLines implLines
  rw [isEmpty, methods]
  rfl

theorem filter_fileLines {type : CompanionType} (named : ∀ property ∈ type.properties, IsIdentifier property.name) :
    (fileLines type).filter (fun line => !begins docFront line) = fileLines type.withoutDocs := by
  have keeps : ∀ lines : List String, (∀ line ∈ lines, begins docFront line = false) →
      lines.filter (fun line => !begins docFront line) = lines := by
    intro lines none
    exact List.filter_eq_self.mpr fun line inside => by simp [none line inside]
  have fields : (type.properties.flatMap fun property => memberLines (.property property)).filter
      (fun line => !begins docFront line) =
        type.withoutDocs.properties.flatMap fun property => memberLines (.property property) := by
    rw [List.filter_flatMap, CompanionType.withoutDocs, List.flatMap_map]
    exact List.flatMap_congr fun property member => filter_fieldLines (named property member)
  rw [fileLines_eq, fileLines_eq, List.filter_append, List.filter_append, keeps _ (begins_docFront_topLines type),
    keeps _ (begins_docFront_bottomLines type), fields, topLines_withoutDocs, bottomLines_withoutDocs]

end Rust

/-- The file of a type in Rust without the lines of documentation is that of the type without documentation. Those lines
stand directly above the line of their field, one for each piece that is not blank, and no carriage return is in the file. -/
theorem render_documents {type : CompanionType} (printable : type.Printable) :
    let lines := endedLines (type.render .rust)
    let isDoc := begins Rust.docFront
    ended lines = type.render .rust ∧
      ended (lines.filter fun line => !isDoc line) = type.withoutDocs.render .rust ∧
      (∃ top bottom, lines = top ++ type.properties.flatMap (fun property =>
          (docPieces property).map (Rust.docFront ++ ·) ++ [Rust.fieldLine property]) ++ bottom ∧
        ∀ line ∈ top ++ bottom, isDoc line = false) ∧
      (∀ property ∈ type.properties, isDoc (Rust.fieldLine property) = false) ∧
      Lacks '\r' (type.render .rust) := by
  intro lines isDoc
  have text : ended (Rust.fileLines type) = type.render .rust := Rust.ended_fileLines type
  have same : lines = Rust.fileLines type := by
    unfold lines
    rw [← text, Text.endedLines_ended (Rust.isOneLine_of_mem_fileLines (printable.lacks (.inl rfl)))]
  have noReturn : Lacks '\r' (ended (Rust.fileLines type)) :=
    Text.lacks_ended (by decide) (Rust.lacks_of_mem_fileLines (.inr rfl) (printable.lacks (.inr rfl)))
  refine ⟨?_, ?_, ⟨Rust.topLines type, Rust.bottomLines type, ?_, ?_⟩, ?_, text ▸ noReturn⟩
  · rw [same, text]
  · rw [same, Rust.filter_fileLines printable.names]
    exact Rust.ended_fileLines type.withoutDocs
  · rw [same, Rust.fileLines_eq]
    simp only [Rust.memberLines, propertyDocs_eq]
    rfl
  · exact List.forall_mem_append.mpr ⟨Rust.begins_docFront_topLines type, Rust.begins_docFront_bottomLines type⟩
  · exact fun property member => Rust.begins_docFront_fieldLine (printable.names property member)

/-- A type with documentation that has blank lines, lone carriage returns, and what would be an item. -/
def smuggledType : CompanionType :=
  ⟨"ExtractFieldUser", ⟨["app"], by decide⟩, "User", [⟨"type", .optional .string, "getThetype", "setThetype",
    ["First. \r\n\n \t\n", "struct Other;\r\x7d\r\u2003", "  /// "]⟩]⟩

theorem render_documents_smuggled :
    smuggledType.Printable ∧ smuggledType.properties.map docPieces = [["First.", "struct Other;", "\x7d", "  ///"]] ∧
      ended ((endedLines (smuggledType.render .rust)).filter fun line => !begins Rust.docFront line) =
        smuggledType.withoutDocs.render .rust ∧
      Lacks '\r' (smuggledType.render .rust) := by
  have printable : smuggledType.Printable := {
    name := by decide
    sourceName := by decide
    segments := by decide
    names := by decide
    accessors := by decide
    mutators := by decide
    types := by decide }
  obtain ⟨-, without, -, -, noReturn⟩ := render_documents printable
  exact ⟨printable, by decide +kernel, without, noReturn⟩

end Render

end Companion
