import Companion.Proofs.Render.RustBlank
import Companion.Proofs.Source.Fields
import Companion.Proofs.Source.ReadBack
import Companion.Proofs.Source.Rescan

/-!
Companions of loaded classes as sources. The file of a companion can be read, if the fields of the class have types of which
no part is kept as it stands and none of them is called by the blank; and all that is declared in it carries the marks that
are written there, and no other. If a field is called by the blank, the file cannot be read.
-/

set_option autoImplicit false

namespace Companion

open Companion.Syntax (IsIdentifier IsWord Look)

def companionMarks : List String := ["allow", "derive"]

namespace Index

variable {member : Syntax.Member} {position : Nat}

theorem position_free (position : Nat) : "_" ++ toString position ∉ Syntax.neverRaw := by
  have blank : ∀ word ∈ Syntax.neverRaw, word.toList.head? = some '_' → word = "_" := by decide
  intro neverRaw
  have same := blank _ neverRaw (by simp)
  have noDigits : (toString position).toList = [] := by simpa using congrArg String.toList same
  simp [toString] at noDigits

/-- The name of a member that was read, if it is not the blank, can be written as an identifier. -/
theorem memberName_free (worded : member.Worded) (notBlank : memberName member position ≠ "_") :
    memberName member position ∉ Syntax.neverRaw := by
  unfold memberName at notBlank ⊢
  cases named : member.name with
  | none => exact position_free position
  | some name =>
      rw [named] at notBlank
      dsimp only at notBlank ⊢
      obtain isIdentifier | ⟨plain, isIdentifier, canBeRaw, rfl⟩ := worded.word name named
      · rw [Render.Rust.plainName_of_isIdentifier isIdentifier] at notBlank ⊢
        have free := (worded.free name named).resolve_left notBlank
        intro neverRaw
        have isKeyword : ∀ word ∈ Syntax.neverRaw, word ∈ Look.keywords := by decide
        exact free (isKeyword name neverRaw)
      · have same : plainName ("r#" ++ plain) = plain := by simp [plainName]
        rwa [same]

end Index

/-- Whether a field can be declared: its name is the blank, or is an identifier or can be written as one, and its type can be
read from what is written of it. -/
structure Field.IsSpelled (field : Field) : Prop where
  name : IsIdentifier field.name
  canBeRaw : field.name ≠ "_" → field.name ∉ Syntax.neverRaw
  type : field.type.Written

namespace Field.IsSpelled

variable {field : Field}

theorem writable (spelled : field.IsSpelled) (notBlank : field.name ≠ "_") : field.IsWritable :=
  ⟨spelled.name, spelled.canBeRaw notBlank, spelled.type⟩

theorem blank (spelled : field.IsSpelled) (isBlank : field.name = "_") : Render.Rust.Blank field.toProperty where
  type := spelled.type.nullable
  value := spelled.type.nullable.nonNull
  name := by
    show IsWord (Render.Rust.identifier field.name)
    rw [isBlank]
    exact .inl (by decide)
  accessor := .inl (.append (Render.Rust.isIdentifier_front (by decide)) spelled.name)
  mutator := .inl (.append (Render.Rust.isIdentifier_front (by decide)) spelled.name)
  isBlank := isBlank
  accessorFree := Render.Rust.front_append_free (by decide) field.name
  isOptional := field.type.exists_nullable

end Field.IsSpelled

/-- A member that was read, if its type is understood, stands for a field that can be declared. -/
theorem Field.isSpelled_of_member {field : Field} {member : Syntax.Member} {position : Nat} (worded : member.Worded)
    (stands : Index.fieldOf member position = field) (understood : field.type.VerbatimFree) : field.IsSpelled := by
  subst stands
  exact ⟨Index.isIdentifier_memberName worded position, Index.memberName_free worded,
    TypeRef.written_ofSyntax member.type worded.type understood⟩

namespace Source

variable {source : Source} {work : Workspace} {root : FilePath}

/-- If no name of a file has line breaks, no part of the namespace of a loaded class has any. -/
theorem isOneLine_of_mem_segments (elsewhere : work.LogsElsewhere) (named : work.files.NamesBelow root)
    (lines : work.files.LinesBelow root) (loaded : (ofDirectory work root).2 = .ok source) {entry : Entry}
    (member : entry ∈ source.entries) (isClass : entry.declaration.kind = .classLike) :
    ∀ segment ∈ entry.declaration.space.segments, Text.IsOneLine segment := by
  obtain ⟨isDirectory, -⟩ := faultless_of_ofDirectory elsewhere loaded
  obtain ⟨path, scanned, id, found, isFound, rfl⟩ := exists_finding_of_mem_entries elsewhere loaded member
  have stands := standsIn_of_mem_findingsIn isFound isClass
  obtain ⟨walked, isRustFile⟩ := List.mem_filter.mp scanned
  obtain ⟨entries, names, content, isThere, isFile, rfl⟩ :=
    FileSystem.exists_file_of_mem_filesBelow isDirectory (FileSystem.files_walk_subset walked)
  have areNamed : Node.AreNamed entries := named _ isThere
  obtain ⟨someNames, areNames⟩ := Node.areNames_of_mem_stopsOf areNamed isFile
  have oneLine : ∀ name ∈ names, Text.IsOneLine name :=
    lines _ isThere (names, content) (Node.mem_files_iff.mpr (by simpa [Node.stops] using isFile))
  obtain ⟨directories, stem, rfl, -, segments⟩ := exists_stem someNames areNames isRustFile
  obtain ⟨modules, areIdentifiers, whole⟩ := stands.modules
  intro segment isSegment
  have inFileOrModules : segment ∈ directories ++ Namespace.stemSegment stem ++ modules := by
    rwa [← segments, ← whole]
  obtain inFile | inModules := List.mem_append.mp inFileOrModules
  · obtain inDirectories | inStem := List.mem_append.mp inFile
    · exact oneLine segment (List.mem_append_left _ inDirectories)
    · have stemLine := oneLine (stem ++ ".rs") (by simp)
      rw [mem_stemSegment inStem]
      exact fun inside => stemLine (by simp [inside])
  · exact (areIdentifiers segment inModules).isOneLine

end Source

/-- The file of a companion whose fields can be written can be read, and what is found in it has no marks but those that are
written there. -/
theorem exists_items_render {name : String} {space : Namespace} {fields : List Field} (isIdentifier : IsIdentifier name)
    (oneLine : ∀ segment ∈ space.segments, Text.IsOneLine segment) (writable : ∀ field ∈ fields, field.IsWritable) :
    ∃ items, Syntax.readFile ((synthesize name space fields).render .rust) = .ok items ∧
      ∀ file target, ∀ found ∈ (Index.itemsFindings file target items).declarations,
        ∀ mark ∈ found.annotations, mark ∈ companionMarks := by
  rcases Render.Rust.readFile_file (namedType_of_writable isIdentifier oneLine writable) with
    ⟨_, read, struct, blocks, rfl, isStruct, areBlocks⟩
  refine ⟨_, read, fun file target found member mark isMark => ?_⟩
  rcases declarations_of_struct file target isStruct with ⟨place, members, -, alone⟩
  rcases List.mem_append.mp member with inStruct | inBlocks
  · rw [alone, List.mem_singleton] at inStruct
    rw [inStruct] at isMark
    exact isMark
  · rw [annotations_of_blocks file target areBlocks found inBlocks, List.mem_singleton] at isMark
    simp [isMark, companionMarks]

theorem exists_error_render {name : String} {space : Namespace} {fields : List Field} (isIdentifier : IsIdentifier name)
    (oneLine : ∀ segment ∈ space.segments, Text.IsOneLine segment) (spelled : ∀ field ∈ fields, field.IsSpelled)
    {field : Field} (isField : field ∈ fields) (isBlank : field.name = "_") :
    ∃ reason, Syntax.readFile ((synthesize name space fields).render .rust) = .error reason := by
  have origin : Text.IsOneLine (space.qualify name) := Namespace.lacks_qualify (by decide) oneLine isIdentifier.isOneLine
  have named : ∀ property ∈ (synthesize name space fields).properties, property.name ≠ "_" → Render.Rust.Named property := by
    intro property member notBlank
    rcases List.mem_map.mp member with ⟨one, isOne, rfl⟩
    exact ((spelled one isOne).writable notBlank).named
  have blank : ∀ property ∈ (synthesize name space fields).properties, property.name = "_" → Render.Rust.Blank property := by
    intro property member itsBlank
    rcases List.mem_map.mp member with ⟨one, isOne, rfl⟩
    exact (spelled one isOne).blank itsBlank
  refine Render.Rust.readFile_file_of_blank {
    name := .inl (.append (Render.Rust.isIdentifier_front (by decide)) isIdentifier)
    origin
    sourceName := isIdentifier
    properties := fun property member =>
      if itsBlank : property.name = "_" then (blank property member itsBlank).toLegible
      else (named property member itsBlank).toLegible
    free := Render.Rust.front_append_free (by decide) name
    named
    blank
    some := ⟨_, List.mem_map_of_mem isField, isBlank⟩ }

end Companion
