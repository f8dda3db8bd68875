import Companion.Proofs.Render.RustForms
import Companion.Proofs.Syntax.FunctionReads
import Mathlib.Data.List.Forall2

/-!
The Rust file of a companion type is read back. Its items are the structure, whose members are the properties with their
documentation, and behind it the block of functions, if there are any.
-/

set_option autoImplicit false

namespace Companion.Render.Rust

open Companion.Syntax
open Companion.Syntax.Parser

variable {g : Grammar} {place : Position} {rest : List Tree}

def docMark (line : String) : Attribute :=
  ⟨false, ["doc"], some (" " ++ line)⟩

theorem trees_docForms (line : String) (place : Position) :
    ∃ first, Form.trees place (docForms line) = docAttribute (" " ++ line).toList false first :=
  ⟨_, List.append_nil _⟩

theorem readsMarks_doc {text : String} {middle : List Tree} {marks : List Attribute} (others : ReadsMarks g middle rest marks)
    (place : Position) :
    ReadsMarks g (docAttribute text.toList false place ++ middle) rest (⟨false, ["doc"], some text⟩ :: marks) := by
  have read : ReadsMarks g (docAttribute text.toList false place ++ middle) rest
      (⟨false, ["doc"], some (String.ofList text.toList)⟩ :: marks) :=
    .cons (reads_documentation _ place place place) false place place place others
  rwa [String.ofList_toList] at read

theorem readsMarks_docs (lines : List String) (place : Position) (ends : Look.sign "#" rest = false) :
    ReadsMarks g (Form.trees place (lines.map docForms).flatten ++ rest) rest (lines.map docMark) := by
  induction lines generalizing place with
  | nil => exact .nil ends
  | cons line lines ih =>
      rcases trees_docForms line place with ⟨first, same⟩
      rw [List.map_cons, List.flatten_cons, Form.trees_append, same, List.append_assoc]
      exact readsMarks_doc (ih _) first

/-- Whether the names that stand for a property are read as identifiers. -/
structure Named (property : Property) : Prop extends Legible property where
  nameFree : identifier property.name ∉ Look.keywords
  accessorFree : property.accessor ∉ Look.keywords
  mutatorFree : property.mutator ∉ Look.keywords

/-- Whether a member of a structure is what is written of a property. -/
structure IsFieldOf (property : Property) (member : Syntax.Member) : Prop where
  attributes : member.attributes = (propertyDocs property).map docMark
  name : member.name = some (identifier property.name)
  type : member.type = property.type.toSyntax

theorem trees_declarationForms (property : Property) (place : Position) (rest : List Tree) :
    ∃ first second next last, Form.trees place (declarationForms property) ++ rest =
      .word (identifier property.name) first :: .sign ':' false second ::
        (Form.trees next (property.type.toSyntax.forms true) ++ .sign ',' false last :: rest) := by
  simp only [declarationForms, Form.trees_blank, Form.trees_word, Form.trees_sign, Form.trees_append, Form.trees_nil,
    List.cons_append, List.append_assoc, List.nil_append]
  exact ⟨_, _, _, _, rfl⟩

theorem reads_fieldForms {property : Property} (named : Named property)
    (type : ReadsBack (g.type true) property.type.toSyntax) (depth : Nat) (place : Position) (rest : List Tree) :
    ∃ next, Reads (namedMember g (depth + 1)) (Form.trees place (fieldForms property) ++ rest)
      (.sign ',' false next :: rest) (IsFieldOf property) := by
  rcases trees_declarationForms property (place.after (Form.texts ((propertyDocs property).map docForms).flatten).toList)
    rest with ⟨first, second, next, last, same⟩
  rw [fieldForms, Form.trees_append, List.append_assoc, same]
  refine ⟨last, (reads_namedMember named.nameFree (readsMarks_docs _ place rfl) (type true next _ rfl) depth).mono ?_⟩
  rintro member ⟨attributes, name, isType⟩
  exact ⟨attributes, name, isType⟩

theorem readsPieces_of_fields {properties : List Property} {depth : Nat}
    (reads : ∀ property ∈ properties, ∀ place rest, ∃ next, Reads (namedMember g depth)
      (Form.trees place (fieldForms property) ++ rest) (.sign ',' false next :: rest) (IsFieldOf property))
    (place : Position) :
    ReadsPieces .commas (namedMember g depth) (Form.trees place (properties.map fieldForms).flatten) []
      fun found => List.Forall₂ IsFieldOf properties (found.map (·.value)) := by
  induction properties generalizing place with
  | nil =>
      have nothing : ReadsPieces .commas (namedMember g depth) [] [] (· = []) := .nil _ rfl
      exact fun count enough => (nothing count enough).mono fun found isEmpty => by simp [isEmpty]
  | cons property properties ih =>
      have others := ih (fun one member => reads one (List.mem_cons_of_mem _ member))
        (place.after (Form.texts (fieldForms property)).toList)
      rw [List.map_cons, List.flatten_cons, Form.trees_append]
      rcases reads property List.mem_cons_self place
        (Form.trees (place.after (Form.texts (fieldForms property)).toList) (properties.map fieldForms).flatten) with ⟨next, first⟩
      have isWord : Form.word (identifier property.name) ∈ fieldForms property :=
        List.mem_append_right _ (by simp [declarationForms])
      have shorter := Form.length_lt_of_mem isWord place
      intro count enough
      refine (ReadsPieces.cons rfl ?_ first rfl (shorter _) others count enough).mono ?_
      · exact List.isEmpty_eq_false_iff.mpr (List.length_pos_iff.mp (Nat.zero_lt_of_lt (shorter _)))
      · rintro _ ⟨piece, found, rfl, isField, areFields⟩
        exact .cons isField areFields

theorem reads_resultForms {property : Property} (typed : Typed property) {depth : Nat}
    (value : ReadsBack ((grammar depth).type false) property.type.nonNull.toSyntax) (ends : endsType rest = true)
    (first second place : Position) :
    Reads (optionalResult (grammar (depth + 2)) true)
      (.sign '-' true first :: .sign '>' false second :: (Form.trees place (resultForms property) ++ rest)) rest
      fun _ => True := by
  have isSegment : IsSegment "Option" := TypeRef.isSegment_of_known (by decide)
  simp only [resultForms, Form.trees_word, Form.trees_sign, Form.trees_append, Form.trees_nil, List.cons_append,
    List.append_assoc, List.nil_append]
  have reference : ∀ opened inner closed, Reads ((grammar (depth + 1)).type true)
      (.sign '&' property.type.nonNull.toSyntax.isAbsolute opened ::
        (Form.trees inner (property.type.nonNull.toSyntax.forms true) ++ .sign '>' false closed :: rest))
      (.sign '>' false closed :: rest) fun _ => True := fun opened inner closed =>
    reads_reference (startsType_forms typed.value.plain typed.value.sound true inner _) (value true inner _ rfl) _ opened true
  refine .bind (.optionalSign_yes rfl) fun found isFound => ?_
  rw [isFound]
  refine .bind (reads_applied isSegment (by decide) rfl ?_ ?_ rfl (reference _ _ _) ends _ true) fun _ _ => .pure trivial
  · simp [startsConstant, Look.literal, Look.group]
  · simp [Look.sign, Look.signs]

theorem readsInputs_self (opened second : Position) : ReadsInputs g true false [.sign '&' false opened, .word "self" second] :=
  .receiver (reads_receiverInput rfl ((Reads.optionalWord_no rfl).mono fun _ _ => trivial) false opened)

/-- The function that lends the value of a field is read. -/
theorem reads_accessorForms {property : Property} (named : Named property) {depth : Nat}
    (value : ReadsBack ((grammar (depth + 2)).type false) property.type.nonNull.toSyntax) (place : Position) (rest : List Tree) :
    Reads (implementationPart (grammar (depth + 4))) (Form.trees place (accessorForms property) ++ rest) rest fun _ => True := by
  simp only [accessorForms, accessorBody, Form.trees_blank, Form.trees_word, Form.trees_sign, Form.trees_group,
    Form.trees_append, Form.trees_nil, List.cons_append, List.append_assoc, List.nil_append]
  exact reads_method named.accessorFree (readsInputs_self _ _) (reads_resultForms named.toTyped value rfl _ _ _) rfl
    (reads_lending named.nameFree (depth + 1))

theorem readsInputs_inputForms {property : Property} (named : Named property) {depth : Nat}
    (type : ReadsBack ((grammar (depth + 1)).type true) property.type.toSyntax) (place : Position) :
    ReadsInputs (grammar (depth + 1)) true false (Form.trees place (inputForms property)) := by
  have typed : ∀ place, Reads ((grammar (depth + 1)).type true) (Form.trees place (property.type.toSyntax.forms false)) []
      fun _ => True := by
    intro place
    have read := type false place [] rfl
    rw [List.append_nil] at read
    exact read.mono fun _ _ => trivial
  have noDots : ∀ place, Look.sign "..." (Form.trees place (property.type.toSyntax.forms false)) = false := by
    intro place
    have starts := startsType_forms named.type.plain named.type.sound false place []
    rw [List.append_nil] at starts
    exact starts.sign rfl (by decide)
  have plain : ∀ first second place, ReadsInputs (grammar (depth + 1)) false true (.word (identifier property.name) first ::
      .sign ':' false second :: Form.trees place (property.type.toSyntax.forms false)) := fun first second place =>
    .plain (reads_namedInput named.nameFree first second (reads_namePattern named.nameFree first second) (noDots place)
      (typed place)) false
  simp only [inputForms, Form.trees_blank, Form.trees_word, Form.trees_sign]
  refine .receiver_further (reads_receiverInput rfl ((Reads.optionalWord_yes "mut" _ _).mono fun _ _ => trivial) false _) ?_
    (plain _ _ _)
  simp only [List.length_cons]
  omega

/-- The function that replaces the value of a field is read. -/
theorem reads_mutatorForms {property : Property} (named : Named property) {depth : Nat}
    (type : ReadsBack ((grammar (depth + 4)).type true) property.type.toSyntax) (place : Position) (rest : List Tree) :
    Reads (implementationPart (grammar (depth + 4))) (Form.trees place (mutatorForms property) ++ rest) rest fun _ => True := by
  have inputs := readsInputs_inputForms named type
  simp only [mutatorForms, mutatorBody, Form.trees_blank, Form.trees_word, Form.trees_sign, Form.trees_group,
    Form.trees_nil, List.cons_append, List.nil_append]
  exact reads_method named.mutatorFree (inputs _) (reads_noResult rfl) rfl
    (reads_storing named.name named.nameFree (depth + 1))

/-- Functions with empty lines between them are read, if each of them is. -/
theorem readsParts_joined {parts : List (List Form)}
    (reads : ∀ part ∈ parts, Form.word "pub" ∈ part ∧
      ∀ place rest, Reads (implementationPart g) (Form.trees place part ++ rest) rest fun _ => True) (place : Position) :
    ReadsParts g (Form.trees place (Form.joined (.blank "\n") parts)) := by
  induction parts generalizing place with
  | nil => exact .nil
  | cons part others ih =>
      rcases reads part List.mem_cons_self with ⟨some, first⟩
      have shorter := Form.length_lt_of_mem some
      cases others with
      | nil =>
          have read := ReadsParts.cons (first place []) (shorter place []) .nil
          rwa [List.append_nil] at read
      | cons next others =>
          rw [Form.joined, Form.trees_append, Form.trees_blank]
          exact .cons (first place _) (shorter place _) (ih (fun one member => reads one (List.mem_cons_of_mem _ member)) _)

theorem reads_memberForms {property : Property} (named : Named property) {depth : Nat}
    (type : ReadsBack ((grammar (depth + 4)).type true) property.type.toSyntax)
    (value : ReadsBack ((grammar (depth + 2)).type false) property.type.nonNull.toSyntax) {method : Member}
    (isMethod : method ∈ CompanionType.methodsOf property) : Form.word "pub" ∈ memberForms method ∧
      ∀ place rest, Reads (implementationPart (grammar (depth + 4))) (Form.trees place (memberForms method) ++ rest) rest
        fun _ => True := by
  rcases List.mem_cons.mp isMethod with rfl | isMutator
  · exact ⟨by simp [memberForms, accessorForms], reads_accessorForms named value⟩
  · rw [List.mem_singleton.mp isMutator]
    exact ⟨by simp [memberForms, mutatorForms], reads_mutatorForms named type⟩

theorem readsParts_methodForms {type : CompanionType} (named : ∀ property ∈ type.properties, Named property) {depth : Nat}
    (types : ∀ property ∈ type.properties, ReadsBack ((grammar (depth + 4)).type true) property.type.toSyntax)
    (values : ∀ property ∈ type.properties, ReadsBack ((grammar (depth + 2)).type false) property.type.nonNull.toSyntax)
    (place : Position) : ReadsParts (grammar (depth + 4)) (Form.trees place (methodForms type)) := by
  refine readsParts_joined (fun part member => ?_) place
  rcases List.mem_map.mp member with ⟨method, isMethod, rfl⟩
  rcases List.mem_flatMap.mp isMethod with ⟨property, isProperty, ofProperty⟩
  exact reads_memberForms (named property isProperty) (types property isProperty) (values property isProperty) ofProperty

/-- The attribute that lets the compiler accept the names. -/
def allowMark : Attribute := ⟨false, ["allow"], none⟩

def structMarks (type : CompanionType) : List Attribute :=
  [⟨false, ["doc"], some (" Nullable companion of `" ++ type.sourceName ++ "`.")⟩, allowMark, ⟨false, ["derive"], none⟩]

theorem readsMarks_allowanceForms {marks : List Attribute} {middle : List Tree} (place : Position)
    (others : ReadsMarks g middle rest marks) :
    ReadsMarks g (Form.trees place allowanceForms ++ middle) rest (allowMark :: marks) :=
  .cons (reads_listed (by decide) .parenthesis _ _ _ _) false _ _ _ others

theorem readsMarks_deriveForms {marks : List Attribute} {middle : List Tree} (place : Position)
    (others : ReadsMarks g middle rest marks) :
    ReadsMarks g (Form.trees place deriveForms ++ middle) rest (⟨false, ["derive"], none⟩ :: marks) :=
  .cons (reads_listed (by decide) .parenthesis _ _ _ _) false _ _ _ others

/-- What stands above the structure is read as its attributes. -/
theorem readsMarks_preambleForms (type : CompanionType) (place : Position) (ends : Look.sign "#" rest = false) :
    ReadsMarks g (Form.trees place (preambleForms type) ++ rest) rest (structMarks type) := by
  simp only [preambleForms, Form.trees_comment, Form.trees_blank, Form.trees_doc, Form.trees_append, List.append_assoc]
  exact readsMarks_doc (readsMarks_allowanceForms _ (readsMarks_deriveForms _ (.nil ends))) _

def IsStructOf (type : CompanionType) (item : Item) : Prop :=
  ∃ place members, List.Forall₂ IsFieldOf type.properties members ∧
    item = .record ⟨structMarks type, place⟩ type.name false members

theorem reads_structForms {type : CompanionType} (free : type.name ∉ Look.keywords) {body : List Form}
    (pieces : ∀ depth place, ReadsPieces .commas (namedMember g (depth + 1)) (Form.trees place body) []
      fun found => List.Forall₂ IsFieldOf type.properties (found.map (·.value)))
    (place : Position) (rest : List Tree) :
    Reads (item g) (Form.trees place (preambleForms type ++ structForms type.name body) ++ rest) rest (IsStructOf type) := by
  rw [Form.trees_append, List.append_assoc]
  have marked : ∀ next, ReadsMarks g (Form.trees place (preambleForms type) ++
      (Form.trees next (structForms type.name body) ++ rest)) (Form.trees next (structForms type.name body) ++ rest)
      (structMarks type) := fun next => readsMarks_preambleForms type place rfl
  refine (reads_structItem free (marked _) fun depth => pieces depth _).mono ?_
  rintro _ ⟨place, found, areFields, rfl⟩
  exact ⟨place, _, areFields, rfl⟩

theorem reads_structOf {type : CompanionType} (free : type.name ∉ Look.keywords)
    (reads : ∀ property ∈ type.properties, ∀ depth place rest, ∃ next, Reads (namedMember g (depth + 1))
      (Form.trees place (fieldForms property) ++ rest) (.sign ',' false next :: rest) (IsFieldOf property))
    (place : Position) (rest : List Tree) :
    Reads (item g) (Form.trees place (preambleForms type ++
      structForms type.name (.blank "\n" :: (type.properties.map fieldForms).flatten)) ++ rest) rest (IsStructOf type) :=
  reads_structForms free (fun depth place =>
    readsPieces_of_fields (fun property member => reads property member depth) (place.after "\n".toList)) place rest

def IsBlock (item : Item) : Prop :=
  ∃ place target, item = .implementation ⟨[allowMark], place⟩ target

/-- The name of the type that a block of functions belongs to is read. -/
theorem reads_target {name : String} (type : ReadsBack (g.type true) (.path false [] name [])) (second : Position)
    (inner : List Tree) (opened closed : Position) (rest : List Tree) :
    Reads (g.type true) (.word name second :: .group .brace inner opened closed :: rest)
      (.group .brace inner opened closed :: rest) fun _ => True :=
  (type false second (.group .brace inner opened closed :: rest) rfl).mono fun _ _ => trivial

theorem reads_implForms {name : String} (free : name ∉ Look.keywords)
    (type : ReadsBack (g.type true) (.path false [] name [])) {body : List Form}
    (noMark : ∀ place, Look.sign "#" (Form.trees place body) = false) (parts : ∀ place, ReadsParts g (Form.trees place body))
    (place : Position) (rest : List Tree) :
    Reads (item g) (Form.trees place (implForms name body) ++ rest) rest IsBlock := by
  rw [implForms, Form.trees_blank, Form.trees_append, List.append_assoc]
  exact reads_implementationItem free (reads_target type _ _ _ _ _) (noMark _) (parts _)
    (readsMarks_allowanceForms _ (.nil rfl))

theorem noMark_methodForms (type : CompanionType) (place : Position) :
    Look.sign "#" (Form.trees place (methodForms type)) = false := by
  unfold methodForms
  cases type.properties <;> rfl

/-- Whether the names of a type are read as identifiers. -/
structure NamedType (type : CompanionType) : Prop extends LegibleType type where
  free : type.name ∉ Look.keywords
  named : ∀ property ∈ type.properties, Named property

/-- Whether items are those of the file: the structure, and the block of functions if there are any. -/
def AreItems (type : CompanionType) (items : List Item) : Prop :=
  ∃ first others, items = first :: others ∧ IsStructOf type first ∧ ∀ item ∈ others, IsBlock item

theorem noAttributes_fileForms (type : CompanionType) (place : Position) :
    (Look.sign "#" (Form.trees place (fileForms type)) && Look.second (Look.sign "!") (Form.trees place (fileForms type))) =
      false := by
  unfold fileForms
  split <;> rfl

theorem pub_mem_structForms (type : CompanionType) (body : List Form) :
    Form.word "pub" ∈ preambleForms type ++ structForms type.name body :=
  List.mem_append_right _ (by simp [structForms])

theorem impl_mem_implForms (name : String) (body : List Form) : Form.word "impl" ∈ implForms name body := by
  simp [implForms]

/-- The items of the file are read, if all rules are deep enough. -/
theorem reads_fileForms {type : CompanionType} (named : NamedType type) {depth : Nat}
    (types : ∀ property ∈ type.properties, ReadsBack ((grammar (depth + 4)).type true) property.type.toSyntax)
    (values : ∀ property ∈ type.properties, ReadsBack ((grammar (depth + 2)).type false) property.type.nonNull.toSyntax)
    (target : ReadsBack ((grammar (depth + 4)).type true) (.path false [] type.name [])) (place : Position) :
    Reads (fileItems (grammar (depth + 4))) (Form.trees place (fileForms type)) [] (AreItems type) := by
  have fields := fun property (member : property ∈ type.properties) =>
    reads_fieldForms (named.named property member) (types property member)
  refine .bind (.itemsWhile_nil _ (noAttributes_fileForms type place)) fun _ _ => ?_
  unfold fileForms
  split
  · rename_i isEmpty
    have noFields : type.properties = [] := List.isEmpty_iff.mp isEmpty
    have first : Reads (item (grammar (depth + 4))) (Form.trees place (preambleForms type ++ structForms type.name []) ++ []) []
        (IsStructOf type) := by
      refine reads_structForms named.free (fun depth' place => ?_) place []
      have read := readsPieces_of_fields (fun property member => fields property member depth') place
      rwa [noFields] at read ⊢
    have shorter := Form.length_lt_of_mem (pub_mem_structForms type []) place []
    rw [List.append_nil] at first shorter
    refine (Collects.further first shorter (.ended _)).reads.mono ?_
    rintro _ ⟨item, _, rfl, isStruct, rfl⟩
    exact ⟨item, [], rfl, isStruct, by simp⟩
  · have second := fun next => reads_implForms named.free target (noMark_methodForms type)
      (readsParts_methodForms named.named types values) next []
    have shorter := fun next => Form.length_lt_of_mem (impl_mem_implForms type.name (methodForms type)) next []
    simp only [List.append_nil] at second shorter
    rw [← List.append_assoc, Form.trees_append]
    have first := reads_structOf named.free fields place
    refine (Collects.further (first _) (Form.length_lt_of_mem (pub_mem_structForms type _) place _)
      (.further (second _) (shorter _) (.ended _))).reads.mono ?_
    rintro _ ⟨item, _, rfl, isStruct, block, _, rfl, isBlock, rfl⟩
    exact ⟨item, [block], rfl, isStruct, by simpa using isBlock⟩

/-- The types of the fields have fewer tokens than the file. -/
theorem sizes_type {type : CompanionType} {property : Property} (member : property ∈ type.properties) :
    Form.sizes (property.type.toSyntax.forms true) ≤ Form.sizes (fileForms type) := by
  have inField : Form.sizes (property.type.toSyntax.forms true) ≤ Form.sizes (fieldForms property) := by
    simp only [fieldForms, declarationForms, Form.sizes, Form.sizes_append, Form.size]
    omega
  have inFields := Form.sizes_le_of_mem (List.mem_map_of_mem (f := fieldForms) member)
  have notEmpty : type.isEmpty = false := List.isEmpty_eq_false_iff.mpr (List.ne_nil_of_mem member)
  simp only [fileForms, notEmpty, Bool.false_eq_true, if_false, structForms, Form.sizes, Form.sizes_append, Form.size]
  omega

theorem sizes_nonNull (type : TypeRef) :
    Form.sizes (type.nonNull.toSyntax.forms true) ≤ Form.sizes (type.toSyntax.forms true) := by
  cases type with
  | optional value => exact Nat.le_of_lt (sizes_argument (List.mem_singleton_self value.toSyntax) false [] "Option" true)
  | scalar | string | list | named | verbatim => exact Nat.le_refl _

theorem readsBack_name {name : String} (isWord : IsWord name) (free : name ∉ Look.keywords) (depth : Nat) :
    ReadsBack ((grammar (depth + 1)).type true) (.path false [] name []) := by
  have isSegment : IsSegment name := ⟨isWord, .inl free⟩
  have sound : (TypeSyntax.path false [] name []).Sound := by
    refine ⟨by simpa using .inl isSegment, ?_, fun _ => isSegment, trivial⟩
    intro _ isTry
    exact ne_of_free free (by decide) (Option.some.inj isTry)
  have plain : (TypeSyntax.path false [] name []).Plain := trivial
  have one : Form.sizes ((TypeSyntax.path false [] name []).forms true) = 1 := rfl
  exact readsBack_grammar plain sound (by omega) true

section Depth

variable {type : CompanionType} {property : Property}

def fileDepth (type : CompanionType) : Nat := 16 * Form.sizes (fileForms type) + 28

theorem enoughDepth_fileForms (type : CompanionType) :
    enoughDepth (Form.trees .start (fileForms type)) = fileDepth type + 4 := by
  rw [enoughDepth, Form.sizeAll_trees, fileDepth]
  omega

/-- The depth grows with all tokens of the file, so it is enough for the type of each field. -/
theorem readsBack_type (typed : Typed property) (member : property ∈ type.properties) :
    ReadsBack ((grammar (fileDepth type + 4)).type true) property.type.toSyntax := by
  have fewer := sizes_type member
  exact readsBack_grammar typed.type.plain typed.type.sound (by rw [fileDepth]; omega) true

theorem readsBack_value (typed : Typed property) (member : property ∈ type.properties) :
    ReadsBack ((grammar (fileDepth type + 2)).type false) property.type.nonNull.toSyntax := by
  have fewer := sizes_type member
  have value := sizes_nonNull property.type
  exact readsBack_grammar typed.value.plain typed.value.sound (by rw [fileDepth]; omega) false

end Depth

theorem readFile_eq {type : CompanionType} (legible : LegibleType type) :
    readFile (file type) = (parseAll fileItems (Form.trees .start (fileForms type))).map (·.1) := by
  rcases exists_toList_file legible with ⟨others, chars⟩
  have body : fileBody (file type).toList = (file type).toList := by
    rw [chars]
    rfl
  have trees : treesOf (fileBody (file type).toList) = .ok (Form.trees .start (fileForms type)) := by
    rw [treesOf, body, treesFrom_file legible]
  simp only [readFile, trees, Bind.bind, Except.bind, Pure.pure, Except.pure]
  cases parseAll fileItems (Form.trees .start (fileForms type)) <;> rfl

/-- The file is read, and its items are the structure and the block of functions. -/
theorem readFile_file {type : CompanionType} (named : NamedType type) :
    ∃ items, readFile (file type) = .ok items ∧ AreItems type items := by
  have items : Reads (fileItems (grammar (enoughDepth (Form.trees .start (fileForms type)))))
      (Form.trees .start (fileForms type)) [] (AreItems type) := by
    rw [enoughDepth_fileForms]
    exact reads_fileForms named (fun property member => readsBack_type (named.named property member).toTyped member)
      (fun property member => readsBack_value (named.named property member).toTyped member)
      (readsBack_name named.name named.free _) _
  rcases parseAll_of_reads items with ⟨found, words, parsed, areItems⟩
  exact ⟨found, by rw [readFile_eq named.toLegibleType, parsed]; rfl, areItems⟩

end Companion.Render.Rust
