import Companion.Proofs.Render.RustReads
import Companion.Proofs.Syntax.Blank

/-!
A Rust file that cannot be read. A property that is called by the blank is declared like any other, but the function that lends
its value asks for a field by the blank, which no value has.
-/

set_option autoImplicit false

namespace Companion.Render.Rust

open Companion.Syntax
open Companion.Syntax.Parser

variable {g : Grammar}

/-- Whether a property that is called by the blank is legible, and its type admits an absent value. -/
structure Blank (property : Property) : Prop extends Legible property where
  isBlank : property.name = "_"
  accessorFree : property.accessor ∉ Look.keywords
  isOptional : ∃ value, property.type = .optional value

theorem Blank.identifier_eq {property : Property} (blank : Blank property) : identifier property.name = "_" := by
  rw [blank.isBlank]
  decide

/-- A field that is called by the blank is read up to the comma behind it. -/
theorem reads_blankForms {property : Property} (blank : Blank property)
    (type : ReadsBack (g.type true) property.type.toSyntax) (depth : Nat) (place : Position) (rest : List Tree) :
    ∃ next, Reads (namedMember g (depth + 1)) (Form.trees place (fieldForms property) ++ rest)
      (.sign ',' false next :: rest) (IsFieldOf property) := by
  rcases trees_declarationForms property (place.after (Form.texts ((propertyDocs property).map docForms).flatten).toList)
    rest with ⟨first, second, next, last, same⟩
  rw [fieldForms, Form.trees_append, List.append_assoc, same, blank.identifier_eq]
  have noMembers : startsInnerMembers (Form.trees next (property.type.toSyntax.forms true) ++ .sign ',' false last :: rest) =
      false := by
    rcases blank.isOptional with ⟨value, isOptional⟩
    rw [isOptional]
    rfl
  refine ⟨last, (reads_blankMember (readsMarks_docs _ place rfl) noMembers (type true next _ rfl) depth).mono ?_⟩
  rintro member ⟨attributes, name, isType⟩
  exact ⟨attributes, name.trans (congrArg some blank.identifier_eq.symm), isType⟩

/-- The function that lends the value of the field is not read. -/
theorem fails_accessorForms {property : Property} (blank : Blank property) {depth : Nat}
    (value : ReadsBack ((grammar (depth + 2)).type false) property.type.nonNull.toSyntax) (place : Position) (rest : List Tree) :
    Fails (implementationPart (grammar (depth + 4))) (Form.trees place (accessorForms property) ++ rest) := by
  simp only [accessorForms, accessorBody, blank.identifier_eq, Form.trees_blank, Form.trees_word, Form.trees_sign,
    Form.trees_group, Form.trees_append, Form.trees_nil, List.cons_append, List.append_assoc, List.nil_append]
  exact fails_method blank.accessorFree (readsInputs_self _ _) (reads_resultForms blank.toTyped value rfl _ _ _) rfl
    (fails_blankStatements _ _ _ _ (depth + 1))

/-- Functions with empty lines between them are not read, if one behind others that are read is not. -/
theorem failsToCollect_joined {front : List (List Form)} {part : List Form} (others : List (List Form))
    (reads : ∀ one ∈ front, Form.word "pub" ∈ one ∧
      ∀ place rest, Reads (implementationPart g) (Form.trees place one ++ rest) rest fun _ => True)
    (some : Form.word "pub" ∈ part) (fails : ∀ place rest, Fails (implementationPart g) (Form.trees place part ++ rest))
    (place : Position) :
    FailsToCollect (unlessStopped Look.atEnd (implementationPart g))
      (Form.trees place (Form.joined (.blank "\n") (front ++ part :: others))) := by
  induction front generalizing place with
  | nil =>
      have nonempty : ∀ rest, Form.trees place part ++ rest ≠ [] := fun rest =>
        List.length_pos_iff.mp (Nat.zero_lt_of_lt (Form.length_lt_of_mem some place rest))
      cases others with
      | nil =>
          have failed := FailsToCollect.of_item (nonempty []) (fails place [])
          rwa [List.append_nil] at failed
      | cons next others =>
          rw [List.nil_append, Form.joined, Form.trees_append]
          exact .of_item (nonempty _) (fails place _)
  | cons one front ih =>
      rcases List.forall_mem_cons.mp reads with ⟨⟨isPublic, first⟩, readsFront⟩
      obtain ⟨next, more, same⟩ := List.exists_cons_of_ne_nil (show front ++ part :: others ≠ [] by simp)
      have behind := ih readsFront
      rw [List.cons_append, same, Form.joined, ← same, Form.trees_append, Form.trees_blank]
      exact .of_others (first place _) (Form.length_lt_of_mem isPublic place _) (behind _)

/-- Whether the names of a type are read as identifiers, but for properties that are called by the blank, of which there is one. -/
structure BlankType (type : CompanionType) : Prop extends LegibleType type where
  free : type.name ∉ Look.keywords
  named : ∀ property ∈ type.properties, property.name ≠ "_" → Named property
  blank : ∀ property ∈ type.properties, property.name = "_" → Blank property
  some : ∃ property ∈ type.properties, property.name = "_"

theorem failsToCollect_methodForms {type : CompanionType} (blankType : BlankType type) {depth : Nat}
    (types : ∀ property ∈ type.properties, ReadsBack ((grammar (depth + 4)).type true) property.type.toSyntax)
    (values : ∀ property ∈ type.properties, ReadsBack ((grammar (depth + 2)).type false) property.type.nonNull.toSyntax)
    (place : Position) :
    FailsToCollect (unlessStopped Look.atEnd (implementationPart (grammar (depth + 4)))) (Form.trees place (methodForms type)) := by
  -- The functions of the properties in front of the first blank are read; that one's accessor is not.
  obtain ⟨property, isFirst⟩ : ∃ property, type.properties.find? (·.name == "_") = some property :=
    Option.isSome_iff_exists.mp (List.find?_isSome.mpr (by simpa using blankType.some))
  obtain ⟨isBlank, front, back, split, named⟩ := List.find?_eq_some_iff_append.mp isFirst
  have isProperty : property ∈ type.properties := List.mem_of_find?_eq_some isFirst
  have inFront : ∀ one ∈ front, one ∈ type.properties := fun one member => split ▸ List.mem_append_left _ member
  have forms : methodForms type = Form.joined (.blank "\n") ((front.flatMap CompanionType.methodsOf).map memberForms ++
      accessorForms property :: mutatorForms property :: (back.flatMap CompanionType.methodsOf).map memberForms) := by
    simp [methodForms, split, CompanionType.methodsOf, memberForms]
  rw [forms]
  refine failsToCollect_joined _ (fun part member => ?_) (by simp [accessorForms])
    (fails_accessorForms (blankType.blank property isProperty (by simpa using isBlank)) (values property isProperty)) place
  rcases List.mem_map.mp member with ⟨method, isMethod, rfl⟩
  rcases List.mem_flatMap.mp isMethod with ⟨one, isOne, ofOne⟩
  exact reads_memberForms (blankType.named one (inFront one isOne) (by simpa using named one isOne)) (types one (inFront one isOne))
    (values one (inFront one isOne)) ofOne

theorem fails_implForms {name : String} (free : name ∉ Look.keywords)
    (type : ReadsBack (g.type true) (.path false [] name [])) {body : List Form}
    (noMark : ∀ place, Look.sign "#" (Form.trees place body) = false)
    (parts : ∀ place, FailsToCollect (unlessStopped Look.atEnd (implementationPart g)) (Form.trees place body))
    (place : Position) : Fails (item g) (Form.trees place (implForms name body)) := by
  rw [implForms, Form.trees_blank, Form.trees_append]
  exact fails_implementationItem free (reads_target type _ _ _ _ _) (noMark _) (parts _) (readsMarks_allowanceForms _ (.nil rfl))

/-- The items of the file are not read, if all rules are deep enough. -/
theorem fails_fileForms {type : CompanionType} (blankType : BlankType type) {depth : Nat}
    (types : ∀ property ∈ type.properties, ReadsBack ((grammar (depth + 4)).type true) property.type.toSyntax)
    (values : ∀ property ∈ type.properties, ReadsBack ((grammar (depth + 2)).type false) property.type.nonNull.toSyntax)
    (target : ReadsBack ((grammar (depth + 4)).type true) (.path false [] type.name [])) (place : Position) :
    Fails (fileItems (grammar (depth + 4))) (Form.trees place (fileForms type)) := by
  have struct := reads_structOf blankType.free (fun property member depth' =>
    if isBlank : property.name = "_" then reads_blankForms (blankType.blank property member isBlank) (types property member) depth'
    else reads_fieldForms (blankType.named property member isBlank) (types property member) depth') place
  obtain ⟨property, isProperty, -⟩ := blankType.some
  have notEmpty : type.isEmpty = false := List.isEmpty_eq_false_iff.mpr (List.ne_nil_of_mem isProperty)
  have block : ∀ next, Fails (item (grammar (depth + 4))) (Form.trees next (implForms type.name (methodForms type))) := fun next =>
    fails_implForms blankType.free target (noMark_methodForms type) (failsToCollect_methodForms blankType types values) next
  have nonempty : ∀ next, Form.trees next (implForms type.name (methodForms type)) ≠ [] := fun next =>
    List.length_pos_iff.mp (by simpa using Form.length_lt_of_mem (impl_mem_implForms type.name (methodForms type)) next [])
  refine .bind (.itemsWhile_nil _ (noAttributes_fileForms type place)) fun _ _ => ?_
  rw [fileForms, notEmpty, if_neg Bool.false_ne_true, ← List.append_assoc, Form.trees_append]
  exact (FailsToCollect.of_others (struct _) (Form.length_lt_of_mem (pub_mem_structForms type _) place _)
    (.of_item (nonempty _) (block _))).fails

/-- The file of a type is not read, if a property is called by the blank. -/
theorem readFile_file_of_blank {type : CompanionType} (blankType : BlankType type) :
    ∃ reason, readFile (file type) = .error reason := by
  have typed : ∀ property ∈ type.properties, Typed property := fun property member =>
    (blankType.properties property member).toTyped
  have fails : Fails (fileItems (grammar (enoughDepth (Form.trees .start (fileForms type)))))
      (Form.trees .start (fileForms type)) := by
    rw [enoughDepth_fileForms]
    exact fails_fileForms blankType (fun property member => readsBack_type (typed property member) member)
      (fun property member => readsBack_value (typed property member) member)
      (readsBack_name blankType.name blankType.free _) _
  rcases parseAll_of_fails fails with ⟨reason, failed⟩
  exact ⟨reason, by rw [readFile_eq blankType.toLegibleType, failed]; rfl⟩

end Companion.Render.Rust
