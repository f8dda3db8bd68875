import Companion.Proofs.Render.KotlinNames
import Companion.Proofs.Round.Confinement
import Companion.Proofs.Source.Fields

/-!
The names in the Kotlin files of a loaded tree. Fields and modules are known by identifiers of Rust, and these are
identifiers of Kotlin, or become so between back-quotes, unless they have letters of their own. The names of directories
and files, and the names in types, are taken over as they stand.
-/

set_option autoImplicit false

namespace Companion

open Companion.Syntax (IsIdentifier)
open Render.Kotlin (Alphabet Piece Role)

/-- An identifier of Rust that is made of ASCII characters is one of Kotlin, or a keyword there. -/
theorem Render.Kotlin.Alphabet.plain_of_ascii (alphabet : Alphabet) {name : String} (isIdentifier : IsIdentifier name)
    (ascii : ∀ c ∈ name.toList, c.toNat < 128) : alphabet.Plain name := by
  have starts : ∀ code : Fin 128, Text.startsIdentifier (Char.ofNat code) = true →
      Naming.isWordStart (Char.ofNat code) = true := by
    decide +kernel
  have continues : ∀ code : Fin 128, Text.continuesIdentifier (Char.ofNat code) = true →
      Naming.isWordPart (Char.ofNat code) = true := by
    decide +kernel
  rw [alphabet.plain_iff_of_ascii ascii]
  obtain ⟨first, others, chars, startsFirst, continuesOthers⟩ := isIdentifier
  unfold Naming.isIdentifier
  rw [chars] at ascii ⊢
  rw [Bool.and_eq_true_iff, List.all_eq_true]
  constructor
  · have found := starts ⟨first.toNat, ascii first (List.mem_cons_self ..)⟩
    rw [Char.ofNat_toNat] at found
    exact found startsFirst
  · intro c member
    have found := continues ⟨c.toNat, ascii c (List.mem_cons_of_mem _ member)⟩
    rw [Char.ofNat_toNat] at found
    exact found (continuesOthers c member)

theorem Syntax.IsIdentifier.noQuote {name : String} (isIdentifier : IsIdentifier name) : '`' ∉ name.toList :=
  isIdentifier.not_mem (by decide)

theorem Syntax.IsIdentifier.noPoint {name : String} (isIdentifier : IsIdentifier name) : '.' ∉ name.toList :=
  isIdentifier.not_mem (by decide)

/-- An identifier of Rust is one of Kotlin, or a keyword there, or has characters that are not ASCII. -/
theorem Render.Kotlin.Alphabet.plain_or_foreign (alphabet : Alphabet) {name : String} (isIdentifier : IsIdentifier name) :
    alphabet.Plain name ∨ ∃ c ∈ name.toList, 128 ≤ c.toNat := by
  by_cases foreign : ∃ c ∈ name.toList, 128 ≤ c.toNat
  · exact .inr foreign
  · exact .inl (alphabet.plain_of_ascii isIdentifier fun c member =>
      Nat.lt_of_not_le fun large => foreign ⟨c, member, large⟩)

namespace Render.Kotlin

/-- Which names of a file are identifiers. The segments of its package are divided into those of directories and files,
and those of modules. -/
structure Judged (alphabet : Alphabet) (type : CompanionType) (fields : List Field) (outside modules : List String) :
    Prop where
  ofPackage : (∀ name, .name .package name ∈ pieces type → alphabet.Legal name) ↔
    (∀ segment ∈ outside, segment ∈ hardKeywords ∨ ∀ part ∈ Text.split (· == '.') segment, alphabet.Legal part) ∧
      ∀ segment ∈ modules, alphabet.Plain segment
  ofModules : ∀ segment ∈ modules, alphabet.Plain segment ∨ ∃ c ∈ segment.toList, 128 ≤ c.toNat
  ofProperties : ∀ role : Role, role.ofProperty = true →
    ((∀ name, .name role name ∈ pieces type → alphabet.Legal name) ↔ ∀ field ∈ fields, alphabet.Plain field.name)
  ofFields : ∀ field ∈ fields, alphabet.Plain field.name ∨ ∃ c ∈ field.name.toList, 128 ≤ c.toNat
  ofTypes : (∀ name, .name .type name ∈ pieces type → alphabet.Legal name) ↔
    ∀ field ∈ fields, ∀ name ∈ ownNames field.type, alphabet.Legal name

theorem ownNames_nullable (type : TypeRef) : ownNames type.nullable = ownNames type := by
  unfold TypeRef.nullable
  split
  · rfl
  · rw [ownNames]

variable {alphabet : Alphabet} {name : String} {space : Namespace} {fields : List Field} {outside modules : List String}

theorem legal_package_iff (segments : space.segments = outside ++ modules)
    (areModules : ∀ segment ∈ modules, IsIdentifier segment) :
    (∀ text, .name .package text ∈ pieces (synthesize name space fields) → alphabet.Legal text) ↔
      (∀ segment ∈ outside, segment ∈ hardKeywords ∨ ∀ part ∈ Text.split (· == '.') segment, alphabet.Legal part) ∧
        ∀ segment ∈ modules, alphabet.Plain segment := by
  have ofModule : ∀ segment ∈ modules,
      (∀ name ∈ segmentNames segment, alphabet.Legal name) ↔ alphabet.Plain segment := fun segment member =>
    alphabet.legal_segmentNames_iff_plain (areModules segment member).noPoint (areModules segment member).noQuote
  constructor
  · intro legal
    have ofSegment : ∀ segment ∈ space.segments, ∀ name ∈ segmentNames segment, alphabet.Legal name :=
      fun segment member name isName => legal name (name_mem_pieces.mpr (.inl ⟨rfl, segment, member, isName⟩))
    rw [segments] at ofSegment
    constructor
    · intro segment member
      exact (alphabet.legal_segmentNames_iff segment).mp (ofSegment segment (List.mem_append_left _ member))
    · intro segment member
      exact (ofModule segment member).mp (ofSegment segment (List.mem_append_right _ member))
  · rintro ⟨ofOutside, ofModules⟩ text inside
    obtain ⟨-, segment, member, isName⟩ | ⟨property, -, ⟨never, -⟩ | inType⟩ := name_mem_pieces.mp inside
    · have isSegment : segment ∈ outside ++ modules := segments ▸ member
      obtain isOutside | isModule := List.mem_append.mp isSegment
      · exact (alphabet.legal_segmentNames_iff segment).mpr (ofOutside segment isOutside) text isName
      · exact (ofModule segment isModule).mpr (ofModules segment isModule) text isName
    · contradiction
    · obtain ⟨never, -⟩ := (mixes_typePieces property.type).sound _ _ inType
      contradiction

theorem legal_properties_iff (areFields : ∀ field ∈ fields, IsIdentifier field.name) {role : Role}
    (ofProperty : role.ofProperty = true) :
    (∀ text, .name role text ∈ pieces (synthesize name space fields) → alphabet.Legal text) ↔
      ∀ field ∈ fields, alphabet.Plain field.name := by
  constructor
  · intro legal field member
    have isProperty : field.toProperty ∈ (synthesize name space fields).properties := List.mem_map_of_mem member
    have found := legal _ (name_mem_pieces.mpr (.inr ⟨_, isProperty, .inl ⟨ofProperty, rfl⟩⟩))
    exact (alphabet.legal_identifier_iff (areFields field member).noQuote).mp found
  · intro plain text inside
    obtain ⟨rfl, -⟩ | ⟨property, isProperty, ⟨-, rfl⟩ | inType⟩ := name_mem_pieces.mp inside
    · contradiction
    · obtain ⟨field, member, rfl⟩ := List.mem_map.mp isProperty
      exact (alphabet.legal_identifier_iff (areFields field member).noQuote).mpr (plain field member)
    · obtain ⟨rfl, -⟩ := (mixes_typePieces property.type).sound _ _ inType
      contradiction

theorem legal_types_iff : (∀ text, .name .type text ∈ pieces (synthesize name space fields) → alphabet.Legal text) ↔
    ∀ field ∈ fields, ∀ name ∈ ownNames field.type, alphabet.Legal name := by
  have ofField : ∀ field : Field, (∀ text, .name .type text ∈ typePieces field.toProperty.type → alphabet.Legal text) ↔
      ∀ name ∈ ownNames field.type, alphabet.Legal name := by
    intro field
    rw [alphabet.legal_typePieces_iff, Field.toProperty, ownNames_nullable]
  constructor
  · intro legal field member
    have isProperty : field.toProperty ∈ (synthesize name space fields).properties := List.mem_map_of_mem member
    exact (ofField field).mp fun text inType => legal text (name_mem_pieces.mpr (.inr ⟨_, isProperty, .inr inType⟩))
  · intro legal text inside
    obtain ⟨never, -⟩ | ⟨property, isProperty, ⟨never, -⟩ | inType⟩ := name_mem_pieces.mp inside
    · contradiction
    · contradiction
    · obtain ⟨field, member, rfl⟩ := List.mem_map.mp isProperty
      exact (ofField field).mpr (legal field member) text inType

theorem judged_synthesize (segments : space.segments = outside ++ modules) (areModules : ∀ segment ∈ modules, IsIdentifier segment)
    (areFields : ∀ field ∈ fields, IsIdentifier field.name) :
    Judged alphabet (synthesize name space fields) fields outside modules where
  ofPackage := legal_package_iff segments areModules
  ofModules := fun segment member => alphabet.plain_or_foreign (areModules segment member)
  ofProperties := fun _ ofProperty => legal_properties_iff areFields ofProperty
  ofFields := fun field member => alphabet.plain_or_foreign (areFields field member)
  ofTypes := legal_types_iff

end Render.Kotlin

open Render.Kotlin (Judged pieces spell spell_pieces judged_synthesize)

/-- The Kotlin file of each class of a loaded tree. -/
theorem Source.kotlin_names {work : Workspace} {root : FilePath} {source : Source} (named : work.files.NamesBelow root)
    (loaded : (ofDirectory work root).2 = .ok source) {settings : Settings} (isKotlin : settings.language = .kotlin)
    (alphabet : Alphabet) {declaration : Declaration} (marked : declaration ∈ source.marked settings.marker) :
    source.contentOf settings declaration = (spell (pieces (source.companion declaration))).toUTF8 ∧
      ∃ directories stem modules, declaration.LoadedFrom root directories stem ∧
        declaration.space.segments = (directories ++ Namespace.stemSegment stem) ++ modules ∧
        Judged alphabet (source.companion declaration) (source.fieldsOf declaration)
          (directories ++ Namespace.stemSegment stem) modules := by
  obtain ⟨isFound, isClass⟩ := List.mem_filter.mp marked
  obtain ⟨directories, stem, origin⟩ := (loadedBelow_of_ofDirectory named loaded).declarationsWith isFound isClass
  obtain ⟨modules, areModules, segments⟩ := origin.modules
  constructor
  · rw [spell_pieces, contentOf, isKotlin]
    rfl
  · exact ⟨directories, stem, modules, origin, segments, judged_synthesize segments areModules fun field member =>
      isIdentifier_of_mem_fieldsOf loaded member⟩

/-- A source root with one class, in a file whose name is no identifier; its field has a keyword for its name, and a raw
name in its type. -/
def dashedTree : Workspace :=
  .ofFiles ⟨.directory [("src", .directory
    [("my-app.rs", .file "#[extract_field]struct User\x7bval: r#type\x7d".toUTF8)])], [], []⟩

/-- Of the names in the file of that class only those of the property are identifiers. -/
theorem Source.kotlin_names_dashed :
    ∃ source, (ofDirectory dashedTree ⟨"src"⟩).2 = .ok source ∧
      ∃ declaration ∈ source.marked "extract_field",
        (∀ role : Role, role.ofProperty = true → ∀ name, .name role name ∈ pieces (source.companion declaration) →
          Alphabet.ascii.Legal name) ∧
        .name .package "my-app" ∈ pieces (source.companion declaration) ∧ ¬ Alphabet.ascii.Legal "my-app" ∧
        .name .type "r#type" ∈ pieces (source.companion declaration) ∧ ¬ Alphabet.ascii.Legal "r#type" := by
  have read : (ofDirectory dashedTree ⟨"src"⟩).2.toOption.map (fun source =>
      (source.marked "extract_field").map fun declaration =>
        ((source.fieldsOf declaration).map (·.name), decide (.name .package "my-app" ∈ pieces (source.companion declaration)),
          decide (.name .type "r#type" ∈ pieces (source.companion declaration)))) = some [(["val"], true, true)] := by
    decide +kernel
  have named : dashedTree.files.NamesBelow ⟨"src"⟩ := by
    rintro _ ⟨⟩
    exact ⟨by decide, trivial, trivial⟩
  obtain ⟨source, loaded, classes⟩ := Option.map_eq_some_iff.mp read
  replace loaded := Syntax.ok_of_toOption loaded
  obtain ⟨declaration, others, same, isFirst, -⟩ := List.map_eq_cons_iff.mp classes
  have member : declaration ∈ source.marked "extract_field" := by simp [same]
  obtain ⟨fields, found⟩ := Prod.mk.inj isFirst
  obtain ⟨inPackage, inType⟩ := Prod.mk.inj found
  have isKotlin : (⟨⟨"gen"⟩, "extract_field", .kotlin⟩ : Settings).language = .kotlin := rfl
  obtain ⟨-, directories, stem, modules, -, -, judged⟩ := kotlin_names named loaded isKotlin .ascii member
  have noQuote : '`' ∉ "my-app".toList := by decide
  refine ⟨source, loaded, declaration, member, fun role ofProperty => ?_, of_decide_eq_true inPackage, ?_,
    of_decide_eq_true inType, Alphabet.ascii.not_legal_of_raw (by decide : '`' ∉ "type".toList)⟩
  · refine (judged.ofProperties role ofProperty).mpr fun field isField => ?_
    have isName : field.name ∈ ["val"] := fields ▸ List.mem_map_of_mem isField
    rw [List.mem_singleton.mp isName]
    exact Alphabet.ascii.plain_of_isIdentifier (by decide)
  · rintro (⟨plain, -⟩ | quoted)
    · exact Alphabet.ascii.not_plain_of_mem (by decide : '-' ∈ "my-app".toList) (by decide) (by decide) plain
    · exact Render.Kotlin.not_quoted_of_not_mem noQuote quoted

end Companion
