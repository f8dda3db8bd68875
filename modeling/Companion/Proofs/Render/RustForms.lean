import Companion.Proofs.Render.RustTypes
import Companion.Proofs.Text.Split
import Companion.Render.Rust

/-!
The forms of the Rust file of a companion type. They make the text of the file, and the lexer finds their trees in it if
the names are words and the types are read back.
-/

set_option autoImplicit false

namespace Companion

open Companion.Syntax (Form TypeSyntax IsIdentifier IsWord)

namespace Syntax.Form

def joined (separator : Form) : List (List Form) → List Form
  | [] => []
  | [part] => part
  | part :: next :: others => part ++ separator :: joined separator (next :: others)

theorem texts_joined (separator : Form) (parts : List (List Form)) :
    texts (joined separator parts) = String.intercalate separator.text (parts.map texts) := by
  induction parts with
  | nil => rfl
  | cons part others ih =>
      cases others with
      | nil => simp [joined]
      | cons next others =>
          rw [List.map_cons] at ih
          rw [joined, texts_append, texts, ih, List.map_cons, List.map_cons, String.intercalate_cons_cons,
            String.append_assoc]

theorem texts_flatten (parts : List (List Form)) : texts parts.flatten = String.join (parts.map texts) := by
  induction parts with
  | nil => rfl
  | cons part parts ih => simp [texts_append, ih]

end Syntax.Form

namespace Render.Rust

def docForms (line : String) : List Form :=
  [.blank "    ", .doc (" " ++ line), .blank "\n"]

/-- The forms of a field behind its documentation. -/
def declarationForms (property : Property) : List Form :=
  .blank "    " :: .word (identifier property.name) :: .sign ':' false :: .blank " " ::
    (property.type.toSyntax.forms true ++ [.sign ',' false, .blank "\n"])

def fieldForms (property : Property) : List Form :=
  ((propertyDocs property).map docForms).flatten ++ declarationForms property

def resultForms (property : Property) : List Form :=
  .word "Option" :: .sign '<' true :: .sign '&' property.type.nonNull.toSyntax.isAbsolute ::
    (property.type.nonNull.toSyntax.forms true ++ [.sign '>' false])

def accessorBody (property : Property) : List Form :=
  [.blank "\n        ", .word "self", .sign '.' false, .word (identifier property.name), .sign '.' false, .word "as_ref",
    .group .parenthesis [], .blank "\n    "]

/-- The forms of the function that lends the value of a field. -/
def accessorForms (property : Property) : List Form :=
  .blank "    " :: .word "pub" :: .blank " " :: .word "fn" :: .blank " " :: .word property.accessor ::
    .group .parenthesis [.sign '&' false, .word "self"] :: .blank " " :: .sign '-' true :: .sign '>' false :: .blank " " ::
    (resultForms property ++ [.blank " ", .group .brace (accessorBody property), .blank "\n"])

def inputForms (property : Property) : List Form :=
  .sign '&' false :: .word "mut" :: .blank " " :: .word "self" :: .sign ',' false :: .blank " " ::
    .word (identifier property.name) :: .sign ':' false :: .blank " " :: property.type.toSyntax.forms false

def mutatorBody (property : Property) : List Form :=
  [.blank "\n        ", .word "self", .sign '.' false, .word (identifier property.name), .blank " ", .sign '=' false,
    .blank " ", .word (identifier property.name), .sign ';' false, .blank "\n    "]

/-- The forms of the function that replaces the value of a field. -/
def mutatorForms (property : Property) : List Form :=
  [.blank "    ", .word "pub", .blank " ", .word "fn", .blank " ", .word property.mutator,
    .group .parenthesis (inputForms property), .blank " ", .group .brace (mutatorBody property), .blank "\n"]

def memberForms : Member → List Form
  | .property property => fieldForms property
  | .accessor property => accessorForms property
  | .mutator property => mutatorForms property

/-- The forms of what lets the compiler accept the names. -/
def allowanceForms : List Form :=
  [.sign '#' false, .group .bracket
    [.word "allow", .group .parenthesis [.word "dead_code", .sign ',' false, .blank " ", .word "non_snake_case"]], .blank "\n"]

/-- The forms of the attribute by which the structure can be made without values. -/
def deriveForms : List Form :=
  [.sign '#' false, .group .bracket [.word "derive", .group .parenthesis [.word "Default"]], .blank "\n"]

def preambleForms (type : CompanionType) : List Form :=
  .comment (" @generated by extractfield from `" ++ type.origin ++ "`. Do not edit.") :: .blank "\n\n" ::
    .doc (" Nullable companion of `" ++ type.sourceName ++ "`.") :: .blank "\n" ::
    (allowanceForms ++ deriveForms)

def structForms (name : String) (body : List Form) : List Form :=
  [.word "pub", .blank " ", .word "struct", .blank " ", .word name, .blank " ", .group .brace body, .blank "\n"]

def implForms (name : String) (body : List Form) : List Form :=
  .blank "\n" :: (allowanceForms ++
    [.word "impl", .blank " ", .word name, .blank " ", .group .brace (.blank "\n" :: body), .blank "\n"])

def methodForms (type : CompanionType) : List Form :=
  Form.joined (.blank "\n") ((type.properties.flatMap CompanionType.methodsOf).map memberForms)

def fileForms (type : CompanionType) : List Form :=
  if type.isEmpty then preambleForms type ++ structForms type.name []
  else preambleForms type ++ (structForms type.name (.blank "\n" :: (type.properties.map fieldForms).flatten) ++
    implForms type.name (methodForms type))

theorem texts_docForms (line : String) : Form.texts (docForms line) = "    /// " ++ line ++ "\n" := by
  apply String.toList_injective
  simp [docForms, Form.texts, Form.text]

theorem texts_fieldForms {property : Property} (written : property.type.Written) :
    Form.texts (fieldForms property) = field property := by
  have docs : ((propertyDocs property).map docForms).map Form.texts =
      (propertyDocs property).map fun line => "    /// " ++ line ++ "\n" := by
    rw [List.map_map]
    exact List.map_congr_left fun line _ => texts_docForms line
  apply String.toList_injective
  simp [fieldForms, declarationForms, field, Form.texts_append, Form.texts_flatten, docs, Form.texts, Form.text,
    written.spelled]

theorem texts_resultForms {property : Property} (written : property.type.nonNull.Written) :
    Form.texts (resultForms property) = "Option<&" ++ property.type.nonNull.render ++ ">" := by
  apply String.toList_injective
  simp [resultForms, Form.texts_append, Form.texts, Form.text, written.spelled]

theorem texts_accessorBody (property : Property) :
    Form.texts (accessorBody property) = "\n        self." ++ identifier property.name ++ ".as_ref()\n    " := by
  apply String.toList_injective
  simp [accessorBody, Form.texts, Form.text, Syntax.Delimiter.opening, Syntax.Delimiter.closing]

theorem texts_accessorForms {property : Property} (written : property.type.nonNull.Written) :
    Form.texts (accessorForms property) = accessor property := by
  unfold accessorForms accessor
  apply String.toList_injective
  simp [Form.texts_append, Form.texts, Form.text, Syntax.Delimiter.opening, Syntax.Delimiter.closing,
    texts_resultForms written, texts_accessorBody]

theorem texts_inputForms {property : Property} (written : property.type.Written) :
    Form.texts (inputForms property) = "&mut self, " ++ identifier property.name ++ ": " ++ property.type.render := by
  apply String.toList_injective
  simp [inputForms, Form.texts, Form.text, written.spelled]

theorem texts_mutatorBody (property : Property) : Form.texts (mutatorBody property) =
    "\n        self." ++ identifier property.name ++ " = " ++ identifier property.name ++ ";\n    " := by
  apply String.toList_injective
  simp [mutatorBody, Form.texts, Form.text]

theorem texts_mutatorForms {property : Property} (written : property.type.Written) :
    Form.texts (mutatorForms property) = mutator property := by
  unfold mutatorForms mutator
  apply String.toList_injective
  simp [Form.texts, Form.text, Syntax.Delimiter.opening, Syntax.Delimiter.closing, texts_inputForms written,
    texts_mutatorBody]

theorem texts_allowanceForms : Form.texts allowanceForms = allowance := by
  decide

theorem texts_preambleForms (type : CompanionType) : Form.texts (preambleForms type) = preamble type := by
  unfold preambleForms deriveForms preamble header
  apply String.toList_injective
  simp [Form.texts_append, texts_allowanceForms, Form.texts, Form.text,
    Syntax.Delimiter.opening, Syntax.Delimiter.closing]

theorem texts_structForms (name : String) (body : List Form) :
    Form.texts (structForms name body) = "pub struct " ++ name ++ " \x7b" ++ Form.texts body ++ "\x7d\n" := by
  apply String.toList_injective
  simp [structForms, Form.texts, Form.text, Syntax.Delimiter.opening, Syntax.Delimiter.closing]

theorem texts_implForms (name : String) (body : List Form) : Form.texts (implForms name body) =
    "\n" ++ allowance ++ "impl " ++ name ++ " \x7b\n" ++ Form.texts body ++ "\x7d\n" := by
  apply String.toList_injective
  simp [implForms, Form.texts_append, texts_allowanceForms, Form.texts, Form.text, Syntax.Delimiter.opening, Syntax.Delimiter.closing]

/-- Whether the types of a property are read from what is written of them. -/
structure Typed (property : Property) : Prop where
  type : property.type.Written
  value : property.type.nonNull.Written

theorem texts_memberForms {member : Member} {property : Property} (typed : Typed property)
    (isMember : member ∈ CompanionType.methodsOf property) : Form.texts (memberForms member) = Rust.member member := by
  rcases List.mem_cons.mp isMember with rfl | isMutator
  · exact texts_accessorForms typed.value
  · rw [List.mem_singleton.mp isMutator]
    exact texts_mutatorForms typed.type

/-- The members of a type are divided into its fields and its functions. -/
theorem partition_members (type : CompanionType) : type.members.partition isField =
    (type.properties.map .property, type.properties.flatMap CompanionType.methodsOf) := by
  have fields : ∀ member ∈ type.properties.map Member.property, isField member = true := by
    intro member isMember
    rcases List.mem_map.mp isMember with ⟨property, -, rfl⟩
    rfl
  have methods : ∀ member ∈ type.properties.flatMap CompanionType.methodsOf, isField member = false := by
    intro member isMember
    rcases List.mem_flatMap.mp isMember with ⟨property, -, isMethod⟩
    rcases List.mem_cons.mp isMethod with rfl | isMutator
    · rfl
    · rw [List.mem_singleton.mp isMutator]
      rfl
  rw [List.partition_eq_filter_filter, CompanionType.members, List.filter_append, List.filter_append,
    List.filter_eq_self.mpr fields, List.filter_eq_nil_iff.mpr (by simpa using methods),
    List.filter_eq_nil_iff.mpr (by simpa using fields), List.filter_eq_self.mpr (by simpa using methods)]
  simp

theorem texts_fileForms {type : CompanionType} (typed : ∀ property ∈ type.properties, Typed property) :
    Form.texts (fileForms type) = file type := by
  have fields : (type.properties.map fieldForms).map Form.texts = (type.properties.map Member.property).map member := by
    rw [List.map_map, List.map_map]
    exact List.map_congr_left fun property member => texts_fieldForms (typed property member).type
  have methods : ((type.properties.flatMap CompanionType.methodsOf).map memberForms).map Form.texts =
      (type.properties.flatMap CompanionType.methodsOf).map member := by
    rw [List.map_map]
    refine List.map_congr_left fun member isMember => ?_
    rcases List.mem_flatMap.mp isMember with ⟨property, isProperty, isMethod⟩
    exact texts_memberForms (typed property isProperty) isMethod
  unfold fileForms file
  split
  · rw [Form.texts_append, texts_preambleForms, texts_structForms]
    apply String.toList_injective
    simp [Form.texts]
  · rw [partition_members, Form.texts_append, Form.texts_append, texts_preambleForms, texts_structForms, texts_implForms,
      Form.texts, methodForms, Form.texts_joined, Form.texts_flatten, fields, methods]
    apply String.toList_injective
    simp [Form.text]

/-- Whether the names that stand for a property are words, and its types are read from what is written of them. -/
structure Legible (property : Property) : Prop extends Typed property where
  name : IsWord (identifier property.name)
  accessor : IsWord property.accessor
  mutator : IsWord property.mutator

theorem isDoc_of_mem_propertyDocs {property : Property} {line : String} (member : line ∈ propertyDocs property) :
    Form.IsDoc (" " ++ line) := by
  rcases List.mem_flatMap.mp member with ⟨doc, -, isLine⟩
  rcases List.mem_map.mp (List.mem_filter.mp isLine).1 with ⟨piece, isPiece, rfl⟩
  rcases List.mem_map.mp isPiece with ⟨chars, isChars, rfl⟩
  have inside : ∀ c ∈ (Text.trimEnd (String.ofList chars)).toList, endsDocLine c = false := by
    intro c isKept
    refine Text.not_separates_of_mem_splitChars isChars ?_
    simp only [Text.trimEnd, Text.trimBack, String.toList_ofList, List.mem_reverse] at isKept
    exact List.mem_reverse.mp ((List.dropWhile_suffix _).subset isKept)
  have noFeed : '\n' ∉ (Text.trimEnd (String.ofList chars)).toList := fun inText => by
    simpa [endsDocLine] using inside '\n' inText
  have noReturn : '\r' ∉ (Text.trimEnd (String.ofList chars)).toList := fun inText => by
    simpa [endsDocLine] using inside '\r' inText
  exact ⟨' ', (Text.trimEnd (String.ofList chars)).toList, by simp, by decide, by simpa using noFeed, by simpa using noReturn⟩

theorem isWord_fixed {word : String} (member : word ∈ ["pub", "fn", "self", "mut", "struct", "impl", "allow", "derive",
    "dead_code", "non_snake_case", "Default", "Option", "as_ref"]) : IsWord word := by
  have fixed : ∀ word ∈ ["pub", "fn", "self", "mut", "struct", "impl", "allow", "derive", "dead_code", "non_snake_case",
      "Default", "Option", "as_ref"], IsIdentifier word := by decide +kernel
  exact .inl (fixed word member)

theorem allFit_declarationForms {property : Property} (legible : Legible property) (behind : Form.Front) :
    Form.AllFit behind (declarationForms property) := by
  have ends : Form.AllFit behind [.sign ',' false, .blank "\n"] := ⟨⟨by decide, rfl⟩, ⟨by decide, by decide⟩, trivial⟩
  have type := TypeSyntax.allFit_forms legible.type.plain legible.type.sound rfl ends
  exact ⟨⟨by decide, by decide⟩, ⟨legible.name, rfl⟩, ⟨by decide, rfl⟩, ⟨by decide, by decide⟩, type⟩

theorem allFit_docForms {property : Property} {line : String} (member : line ∈ propertyDocs property)
    (behind : Form.Front) : Form.AllFit behind (docForms line) :=
  ⟨⟨by decide, by decide⟩, ⟨isDoc_of_mem_propertyDocs member, rfl⟩, ⟨by decide, by decide⟩, trivial⟩

theorem allFit_resultForms {property : Property} (legible : Legible property) {forms : List Form} {behind : Form.Front}
    (fit : Form.AllFit behind forms) (noSign : (Form.frontOf behind forms).isSign = false) :
    Form.AllFit behind (resultForms property ++ forms) := by
  have isOption : IsWord "Option" := isWord_fixed (by decide)
  have ends : Form.AllFit behind (.sign '>' false :: forms) := ⟨⟨by decide, noSign.symm⟩, fit⟩
  have value := TypeSyntax.allFit_forms legible.value.plain legible.value.sound rfl ends
  have front : property.type.nonNull.toSyntax.isAbsolute = (Form.frontOf behind
      (property.type.nonNull.toSyntax.forms true ++ .sign '>' false :: forms)).isSign := by
    rw [TypeSyntax.frontOf_forms legible.value.plain, TypeSyntax.front_isSign]
  have whole : resultForms property ++ forms = .word "Option" :: .sign '<' true ::
      .sign '&' property.type.nonNull.toSyntax.isAbsolute ::
        (property.type.nonNull.toSyntax.forms true ++ .sign '>' false :: forms) := by simp [resultForms]
  rw [whole]
  exact ⟨⟨isOption, rfl⟩, ⟨by decide, rfl⟩, ⟨by decide, front⟩, value⟩

theorem allFit_accessorBody {property : Property} (legible : Legible property) :
    Form.AllFit .other (accessorBody property) :=
  have isSelf : IsWord "self" := isWord_fixed (by decide)
  have isCall : IsWord "as_ref" := isWord_fixed (by decide)
  ⟨⟨by decide, by decide⟩, ⟨isSelf, rfl⟩, ⟨by decide, rfl⟩, ⟨legible.name, rfl⟩, ⟨by decide, rfl⟩, ⟨isCall, rfl⟩, trivial,
    ⟨by decide, by decide⟩, trivial⟩

theorem allFit_accessorForms {property : Property} (legible : Legible property) (behind : Form.Front) :
    Form.AllFit behind (accessorForms property) := by
  have isPub : IsWord "pub" := isWord_fixed (by decide)
  have isFn : IsWord "fn" := isWord_fixed (by decide)
  have isSelf : IsWord "self" := isWord_fixed (by decide)
  have body : Form.AllFit behind [.blank " ", .group .brace (accessorBody property), .blank "\n"] :=
    ⟨⟨by decide, by decide⟩, allFit_accessorBody legible, ⟨by decide, by decide⟩, trivial⟩
  have result := allFit_resultForms legible body rfl
  exact ⟨⟨by decide, by decide⟩, ⟨isPub, rfl⟩, ⟨by decide, by decide⟩, ⟨isFn, rfl⟩, ⟨by decide, by decide⟩,
    ⟨legible.accessor, rfl⟩, ⟨⟨by decide, rfl⟩, ⟨isSelf, rfl⟩, trivial⟩, ⟨by decide, by decide⟩, ⟨by decide, rfl⟩,
    ⟨by decide, rfl⟩, ⟨by decide, by decide⟩, result⟩

theorem allFit_inputForms {property : Property} (legible : Legible property) :
    Form.AllFit .other (inputForms property) := by
  have isMut : IsWord "mut" := isWord_fixed (by decide)
  have isSelf : IsWord "self" := isWord_fixed (by decide)
  have nothing : Form.AllFit .other [] := trivial
  have type := TypeSyntax.allFit_forms legible.type.plain legible.type.sound rfl nothing
  rw [List.append_nil] at type
  exact ⟨⟨by decide, rfl⟩, ⟨isMut, rfl⟩, ⟨by decide, by decide⟩, ⟨isSelf, rfl⟩, ⟨by decide, rfl⟩, ⟨by decide, by decide⟩,
    ⟨legible.name, rfl⟩, ⟨by decide, rfl⟩, ⟨by decide, by decide⟩, type⟩

theorem allFit_mutatorBody {property : Property} (legible : Legible property) :
    Form.AllFit .other (mutatorBody property) :=
  have isSelf : IsWord "self" := isWord_fixed (by decide)
  ⟨⟨by decide, by decide⟩, ⟨isSelf, rfl⟩, ⟨by decide, rfl⟩, ⟨legible.name, rfl⟩, ⟨by decide, by decide⟩, ⟨by decide, rfl⟩,
    ⟨by decide, by decide⟩, ⟨legible.name, rfl⟩, ⟨by decide, rfl⟩, ⟨by decide, by decide⟩, trivial⟩

theorem allFit_mutatorForms {property : Property} (legible : Legible property) (behind : Form.Front) :
    Form.AllFit behind (mutatorForms property) :=
  have isPub : IsWord "pub" := isWord_fixed (by decide)
  have isFn : IsWord "fn" := isWord_fixed (by decide)
  ⟨⟨by decide, by decide⟩, ⟨isPub, rfl⟩, ⟨by decide, by decide⟩, ⟨isFn, rfl⟩, ⟨by decide, by decide⟩, ⟨legible.mutator, rfl⟩,
    allFit_inputForms legible, ⟨by decide, by decide⟩, allFit_mutatorBody legible, ⟨by decide, by decide⟩, trivial⟩

theorem allFit_allowanceForms (behind : Form.Front) : Form.AllFit behind allowanceForms :=
  have isAllow : IsWord "allow" := isWord_fixed (by decide)
  have isDead : IsWord "dead_code" := isWord_fixed (by decide)
  have isCase : IsWord "non_snake_case" := isWord_fixed (by decide)
  ⟨⟨by decide, rfl⟩, ⟨⟨isAllow, rfl⟩, ⟨⟨isDead, rfl⟩, ⟨by decide, rfl⟩, ⟨by decide, by decide⟩, ⟨isCase, rfl⟩, trivial⟩,
    trivial⟩, ⟨by decide, by decide⟩, trivial⟩

theorem allFit_deriveForms (behind : Form.Front) : Form.AllFit behind deriveForms :=
  have isDerive : IsWord "derive" := isWord_fixed (by decide)
  have isDefault : IsWord "Default" := isWord_fixed (by decide)
  ⟨⟨by decide, rfl⟩, ⟨⟨isDerive, rfl⟩, ⟨⟨isDefault, rfl⟩, trivial⟩, trivial⟩, ⟨by decide, by decide⟩, trivial⟩

theorem allFit_structForms {name : String} (isWord : IsWord name) {body : List Form} (fit : Form.AllFit .other body)
    (behind : Form.Front) : Form.AllFit behind (structForms name body) :=
  have isPub : IsWord "pub" := isWord_fixed (by decide)
  have isStruct : IsWord "struct" := isWord_fixed (by decide)
  ⟨⟨isPub, rfl⟩, ⟨by decide, by decide⟩, ⟨isStruct, rfl⟩, ⟨by decide, by decide⟩, ⟨isWord, rfl⟩, ⟨by decide, by decide⟩, fit,
    ⟨by decide, by decide⟩, trivial⟩

theorem allFit_implForms {name : String} (isWord : IsWord name) {body : List Form} (fit : Form.AllFit .other body)
    (behind : Form.Front) : Form.AllFit behind (implForms name body) := by
  have isImpl : IsWord "impl" := isWord_fixed (by decide)
  refine ⟨⟨by decide, by decide⟩, Form.allFit_append.mpr ⟨allFit_allowanceForms _, ?_⟩⟩
  exact ⟨⟨isImpl, rfl⟩, ⟨by decide, by decide⟩, ⟨isWord, rfl⟩, ⟨by decide, by decide⟩, ⟨⟨by decide, by decide⟩, fit⟩,
    ⟨by decide, by decide⟩, trivial⟩

/-- Whether the names of a type are words, its origin is one line, and its properties are legible. -/
structure LegibleType (type : CompanionType) : Prop where
  name : IsWord type.name
  origin : '\n' ∉ type.origin.toList
  sourceName : IsIdentifier type.sourceName
  properties : ∀ property ∈ type.properties, Legible property

theorem allFit_preambleForms {type : CompanionType} (legible : LegibleType type) (behind : Form.Front) :
    Form.AllFit behind (preambleForms type) := by
  have isComment : Form.IsComment (" @generated by extractfield from `" ++ type.origin ++ "`. Do not edit.") := by
    refine ⟨' ', "@generated by extractfield from `".toList ++ type.origin.toList ++ "`. Do not edit.".toList, ?_, by decide,
      by decide, ?_, ?_⟩
    · simp
    · simp [legible.origin]
    · have last : "`. Do not edit.".toList.getLast? = some '.' := by decide
      rw [String.toList_append, List.getLast?_append, last]
      simp
  have noFeed : '\n' ∉ type.sourceName.toList := legible.sourceName.not_mem (by decide)
  have noReturn : '\r' ∉ type.sourceName.toList := legible.sourceName.not_mem (by decide)
  have isDoc : Form.IsDoc (" Nullable companion of `" ++ type.sourceName ++ "`.") := by
    refine ⟨' ', "Nullable companion of `".toList ++ type.sourceName.toList ++ "`.".toList, ?_, by decide, ?_, ?_⟩
    · simp
    · simp [noFeed]
    · simp [noReturn]
  exact ⟨⟨isComment, rfl⟩, ⟨by decide, by decide⟩, ⟨isDoc, rfl⟩, ⟨by decide, by decide⟩,
    Form.allFit_append.mpr ⟨allFit_allowanceForms _, allFit_deriveForms _⟩⟩

theorem allFit_flatten {parts : List (List Form)} (fit : ∀ part ∈ parts, ∀ behind, Form.AllFit behind part)
    (behind : Form.Front) : Form.AllFit behind parts.flatten := by
  induction parts with
  | nil => trivial
  | cons part parts ih =>
      exact Form.allFit_append.mpr ⟨fit part List.mem_cons_self _, ih fun one member => fit one (List.mem_cons_of_mem _ member)⟩

theorem allFit_joined {parts : List (List Form)} (fit : ∀ part ∈ parts, ∀ behind, Form.AllFit behind part)
    (behind : Form.Front) : Form.AllFit behind (Form.joined (.blank "\n") parts) := by
  induction parts with
  | nil => trivial
  | cons part others ih =>
      have first := fit part List.mem_cons_self
      cases others with
      | nil => exact first behind
      | cons next others =>
          have rest := ih fun one member => fit one (List.mem_cons_of_mem _ member)
          exact Form.allFit_append.mpr ⟨first _, ⟨by decide, by decide⟩, rest⟩

theorem allFit_fieldForms {property : Property} (legible : Legible property) (behind : Form.Front) :
    Form.AllFit behind (fieldForms property) := by
  refine Form.allFit_append.mpr ⟨allFit_flatten ?_ _, allFit_declarationForms legible behind⟩
  intro part member
  rcases List.mem_map.mp member with ⟨line, isLine, rfl⟩
  exact allFit_docForms isLine

theorem allFit_methodForms {type : CompanionType} (legible : LegibleType type) (behind : Form.Front) :
    Form.AllFit behind (methodForms type) := by
  refine allFit_joined ?_ behind
  intro part member
  rcases List.mem_map.mp member with ⟨method, isMethod, rfl⟩
  rcases List.mem_flatMap.mp isMethod with ⟨property, isProperty, ofProperty⟩
  have isLegible := legible.properties property isProperty
  rcases List.mem_cons.mp ofProperty with rfl | isMutator
  · exact allFit_accessorForms isLegible
  · rw [List.mem_singleton.mp isMutator]
    exact allFit_mutatorForms isLegible

theorem allFit_fileForms {type : CompanionType} (legible : LegibleType type) : Form.AllFit .other (fileForms type) := by
  unfold fileForms
  split
  · have nothing : Form.AllFit .other [] := trivial
    exact Form.allFit_append.mpr ⟨allFit_preambleForms legible _, allFit_structForms legible.name nothing _⟩
  · have fields : Form.AllFit .other (.blank "\n" :: (type.properties.map fieldForms).flatten) := by
      refine ⟨⟨by decide, by decide⟩, allFit_flatten ?_ _⟩
      intro part member
      rcases List.mem_map.mp member with ⟨property, isProperty, rfl⟩
      exact allFit_fieldForms (legible.properties property isProperty)
    exact Form.allFit_append.mpr ⟨allFit_preambleForms legible _, Form.allFit_append.mpr
      ⟨allFit_structForms legible.name fields _, allFit_implForms legible.name (allFit_methodForms legible _) _⟩⟩

theorem exists_toList_file {type : CompanionType} (legible : LegibleType type) :
    ∃ others, (file type).toList = '/' :: others := by
  rw [← texts_fileForms fun property member => (legible.properties property member).toTyped]
  unfold fileForms
  split <;> simp [preambleForms, Form.texts, Form.text]

/-- The lexer finds the trees of the forms in the file. -/
theorem treesFrom_file {type : CompanionType} (legible : LegibleType type) (place : Syntax.Position) :
    Syntax.treesFrom place (file type).toList = .ok (Form.trees place (fileForms type)) := by
  rcases exists_toList_file legible with ⟨others, chars⟩
  rw [← texts_fileForms fun property member => (legible.properties property member).toTyped] at chars ⊢
  exact Form.treesFrom_texts (allFit_fileForms legible) chars (by decide) place

end Render.Rust

end Companion
