import Companion.Proofs.Syntax.TypeForms
import Companion.TypeRef.OfSyntax

set_option autoImplicit false

namespace Companion.TypeRef

open Companion.Syntax (Form IsPathName IsSegment TypeSyntax)

/-- The type that the names of a path make, of which the first is empty if the path begins at the root. -/
def pathSyntax (names : List String) (arguments : List TypeSyntax) : TypeSyntax :=
  if names.head? = some "" then .path true names.tail.dropLast (names.tail.getLast?.getD "") arguments
  else .path false names.dropLast (names.getLast?.getD "") arguments

mutual

def toSyntax : TypeRef → TypeSyntax
  | scalar primitive => .path false [] primitive.name []
  | string => .path false [] "String" []
  | list element => .path false [] "Vec" [toSyntax element]
  | optional value => .path false [] "Option" [toSyntax value]
  | named path arguments => pathSyntax path (toSyntaxes arguments)
  | verbatim text => .other text

def toSyntaxes : List TypeRef → List TypeSyntax
  | [] => []
  | type :: types => toSyntax type :: toSyntaxes types

end

mutual

def VerbatimFree : TypeRef → Prop
  | scalar _ | string => True
  | list element => VerbatimFree element
  | optional value => VerbatimFree value
  | named _ arguments => AllVerbatimFree arguments
  | verbatim _ => False

/-- Whether no part of several types is kept as it stands. -/
def AllVerbatimFree : List TypeRef → Prop
  | [] => True
  | type :: types => VerbatimFree type ∧ AllVerbatimFree types

end

mutual

def decidableVerbatimFree : (type : TypeRef) → Decidable type.VerbatimFree
  | scalar _ | string => isTrue trivial
  | list element => decidableVerbatimFree element
  | optional value => decidableVerbatimFree value
  | named _ arguments => decidableAllVerbatimFree arguments
  | verbatim _ => isFalse id

def decidableAllVerbatimFree : (types : List TypeRef) → Decidable (AllVerbatimFree types)
  | [] => isTrue trivial
  | type :: types =>
      match decidableVerbatimFree type, decidableAllVerbatimFree types with
      | isTrue first, isTrue others => isTrue ⟨first, others⟩
      | isFalse first, _ => isFalse fun all => first all.1
      | _, isFalse others => isFalse fun all => others all.2

end

instance : DecidablePred VerbatimFree := decidableVerbatimFree

theorem toSyntaxes_eq_map (types : List TypeRef) : toSyntaxes types = types.map toSyntax := by
  induction types with
  | nil => rfl
  | cons type types ih => rw [toSyntaxes, ih, List.map_cons]

/-- Whether a type is read from what is written of it. -/
structure Written (type : TypeRef) : Prop where
  plain : type.toSyntax.Plain
  sound : type.toSyntax.Sound
  readBack : ofSyntax type.toSyntax = type
  spelled : ∀ joint, Form.texts (type.toSyntax.forms joint) = type.render

theorem intercalate_colons (name : String) (names : List String) (last : String) :
    String.intercalate "::" (name :: (names ++ [last])) = name ++ ("::" ++ String.intercalate "::" (names ++ [last])) := by
  cases names <;> simp [String.append_assoc]

theorem texts_leadingForms (names : List String) (last : String) :
    Form.texts (Syntax.leadingForms names ++ [.word last]) = String.intercalate "::" (names ++ [last]) := by
  induction names with
  | nil => simp [Syntax.leadingForms, Form.texts, Form.text]
  | cons name names ih =>
      have whole : Syntax.leadingForms (name :: names) ++ [.word last] =
          .word name :: (Syntax.colons ++ (Syntax.leadingForms names ++ [.word last])) := by simp [Syntax.leadingForms]
      rw [whole, Form.texts, Form.texts_append, ih, List.cons_append, intercalate_colons]
      rfl

/-- A path is written with two colons between its names. -/
theorem texts_pathForms (absolute : Bool) (leading : List String) (last : String) :
    Form.texts (Syntax.pathForms absolute leading last) = String.intercalate "::" (pathNames absolute leading last) := by
  cases absolute with
  | false => exact texts_leadingForms leading last
  | true =>
      have whole : Syntax.pathForms true leading last = Syntax.colons ++ (Syntax.leadingForms leading ++ [.word last]) := by
        simp [Syntax.pathForms]
      have names : pathNames true leading last = "" :: (leading ++ [last]) := by simp [pathNames]
      rw [whole, names, Form.texts_append, texts_leadingForms, intercalate_colons, String.empty_append]
      rfl

theorem texts_furtherForms {types : List TypeRef} (written : ∀ type ∈ types, Written type) :
    Form.texts (TypeSyntax.furtherForms (toSyntaxes types)) = renderOthers types := by
  induction types with
  | nil => rfl
  | cons type types ih =>
      have others := ih fun other member => written other (List.mem_cons_of_mem _ member)
      have first := (written type List.mem_cons_self).spelled true
      rw [toSyntaxes, TypeSyntax.furtherForms, renderOthers, Form.texts, Form.texts, Form.texts_append, first, others,
        String.append_assoc]
      exact (String.append_assoc ..).symm

theorem texts_path (absolute : Bool) (leading : List String) (last : String) {types : List TypeRef}
    (written : ∀ type ∈ types, Written type) (joint : Bool) :
    Form.texts ((TypeSyntax.path absolute leading last (toSyntaxes types)).forms joint) =
      (named (pathNames absolute leading last) types).render := by
  rw [TypeSyntax.forms, Form.texts_append, texts_pathForms]
  cases types with
  | nil => simp [toSyntaxes, TypeSyntax.argumentForms, Form.texts, render]
  | cons first others =>
      have further := texts_furtherForms fun other member => written other (List.mem_cons_of_mem _ member)
      have isFirst := (written first List.mem_cons_self).spelled true
      simp [toSyntaxes, TypeSyntax.argumentForms, Form.texts, Form.text, Form.texts_append, render, isFirst, further,
        String.append_assoc]

theorem ne_empty_of_isPathName {name : String} (isName : IsPathName name) : name ≠ "" := by
  rintro rfl
  rcases (Syntax.isWord_of_isPathName isName).exists_startsWord with ⟨first, rest, chars, -⟩
  contradiction

theorem pathSyntax_pathNames {absolute : Bool} {leading : List String} {last : String}
    (areNames : ∀ name ∈ leading ++ [last], IsPathName name) (arguments : List TypeSyntax) :
    pathSyntax (pathNames absolute leading last) arguments = .path absolute leading last arguments := by
  have nonempty : ∀ name ∈ leading ++ [last], name ≠ "" := fun name member => ne_empty_of_isPathName (areNames name member)
  unfold pathSyntax
  cases absolute with
  | true => simp [pathNames]
  | false =>
      have begins : (pathNames false leading last).head? ≠ some "" := by
        intro isEmpty
        exact nonempty "" (List.mem_of_mem_head? isEmpty) rfl
      rw [if_neg begins]
      simp [pathNames]

theorem Written.of_path {type : TypeRef} {absolute : Bool} {leading : List String} {last : String} {types : List TypeRef}
    (isPath : type.toSyntax = .path absolute leading last (toSyntaxes types))
    (areNames : ∀ name ∈ leading ++ [last], IsPathName name)
    (begins : absolute = false → (leading ++ [last]).head? ≠ some "try") (isSegment : types ≠ [] → IsSegment last)
    (written : ∀ type ∈ types, Written type) (same : ofPath absolute leading last types = type)
    (spelled : type.render = (named (pathNames absolute leading last) types).render) : Written type where
  plain := by
    rw [isPath, toSyntaxes_eq_map]
    apply Syntax.TypeSyntax.allPlain_iff.mpr
    intro one member
    rcases List.mem_map.mp member with ⟨type, isType, rfl⟩
    exact (written type isType).plain
  sound := by
    rw [isPath, toSyntaxes_eq_map]
    refine ⟨areNames, begins, fun some => isSegment (by simpa using some), Syntax.TypeSyntax.allSound_iff.mpr ?_⟩
    intro one member
    rcases List.mem_map.mp member with ⟨type, isType, rfl⟩
    exact (written type isType).sound
  readBack := by
    have readBack : ∀ types : List TypeRef, (∀ type ∈ types, Written type) → ofSyntaxes (toSyntaxes types) = types := by
      intro types written
      induction types with
      | nil => rfl
      | cons type types ih =>
          rw [toSyntaxes, ofSyntaxes, (written type List.mem_cons_self).readBack,
            ih fun other member => written other (List.mem_cons_of_mem _ member)]
    rw [isPath, ofSyntax, readBack types written, same]
  spelled := by
    intro joint
    rw [isPath, texts_path absolute leading last written, spelled]

theorem ofPath_cases (absolute : Bool) (leading : List String) (last : String) (arguments : List TypeRef) :
    (∃ primitive, arguments = [] ∧ ofPath absolute leading last arguments = .scalar primitive) ∨
      (arguments = [] ∧ ofPath absolute leading last arguments = .string) ∨
      (∃ element, arguments = [element] ∧ ofPath absolute leading last arguments = .list element) ∨
      (∃ value, arguments = [value] ∧ ofPath absolute leading last arguments = .optional value) ∨
      ofPath absolute leading last arguments = .named (pathNames absolute leading last) arguments := by
  unfold ofPath
  split
  · rename_i primitive isScalar
    refine .inl ⟨primitive, ?_, rfl⟩
    unfold scalarOfPath? at isScalar
    split at isScalar
    · rename_i alone
      simp only [Bool.and_eq_true, List.isEmpty_iff] at alone
      exact alone.2
    · contradiction
  · split
    · exact .inr (.inl ⟨rfl, rfl⟩)
    · rename_i element _
      exact .inr (.inr (.inl ⟨element, rfl, rfl⟩))
    · rename_i value _
      exact .inr (.inr (.inr (.inl ⟨value, rfl, rfl⟩)))
    · exact .inr (.inr (.inr (.inr rfl)))

/-- The names of scalars, strings, lists and optional values can stand in paths. -/
theorem isSegment_of_known {name : String} (known : name ∈ ["String", "Vec", "Option"] ++ Primitive.all.map Primitive.name) :
    IsSegment name := by
  have free : ∀ name ∈ ["String", "Vec", "Option"] ++ Primitive.all.map Primitive.name,
      Syntax.IsIdentifier name ∧ name ∉ Syntax.Look.keywords := by decide +kernel
  exact ⟨.inl (free name known).1, .inl (free name known).2⟩

/-- A type that one known name makes is read from what is written of it. -/
theorem Written.of_known {type : TypeRef} (name : String) (types : List TypeRef)
    (known : name ∈ ["String", "Vec", "Option"] ++ Primitive.all.map Primitive.name)
    (isPath : type.toSyntax = .path false [] name (toSyntaxes types)) (written : ∀ type ∈ types, Written type)
    (same : ofPath false [] name types = type) (spelled : type.render = (named [name] types).render) : Written type := by
  have isSegment := isSegment_of_known known
  have noTry : ∀ name ∈ ["String", "Vec", "Option"] ++ Primitive.all.map Primitive.name, name ≠ "try" := by decide
  refine .of_path isPath ?_ ?_ (fun _ => isSegment) written same spelled
  · intro one member
    obtain rfl : one = name := by simpa using member
    exact .inl isSegment
  · intro _ begins
    exact noTry name known (Option.some.inj begins)

theorem Written.scalar (primitive : Primitive) : Written (scalar primitive) := by
  refine .of_known primitive.name [] ?_ rfl (by simp) ?_ ?_
  · cases primitive <;> decide
  · cases primitive <;> rfl
  · simp [render]

theorem Written.string : Written string :=
  .of_known "String" [] (by decide) rfl (by simp) rfl (by simp [render])

theorem Written.list {element : TypeRef} (written : Written element) : Written (list element) :=
  .of_known "Vec" [element] (by decide) rfl (by simpa using written) rfl (by simp [render, renderOthers])

theorem Written.optional {value : TypeRef} (written : Written value) : Written (optional value) :=
  .of_known "Option" [value] (by decide) rfl (by simpa using written) rfl
    (by simp [render, renderOthers])

/-- What a path with arguments that are read back names is read back. -/
theorem written_ofPath {absolute : Bool} {leading : List String} {last : String} {arguments : List TypeRef}
    (areNames : ∀ name ∈ leading ++ [last], IsPathName name)
    (begins : absolute = false → (leading ++ [last]).head? ≠ some "try") (isSegment : arguments ≠ [] → IsSegment last)
    (written : ∀ type ∈ arguments, Written type) : Written (ofPath absolute leading last arguments) := by
  rcases ofPath_cases absolute leading last arguments with ⟨primitive, -, same⟩ | ⟨-, same⟩ | ⟨element, rfl, same⟩ |
    ⟨value, rfl, same⟩ | same
  · rw [same]
    exact .scalar primitive
  · rw [same]
    exact .string
  · rw [same]
    exact .list (written element List.mem_cons_self)
  · rw [same]
    exact .optional (written value List.mem_cons_self)
  · have isPath : (named (pathNames absolute leading last) arguments).toSyntax =
        .path absolute leading last (toSyntaxes arguments) := by rw [toSyntax, pathSyntax_pathNames areNames]
    rw [same]
    exact .of_path isPath areNames begins isSegment written same rfl

theorem allVerbatimFree_of_ofPath {absolute : Bool} {leading : List String} {last : String} {arguments : List TypeRef}
    (free : (ofPath absolute leading last arguments).VerbatimFree) : AllVerbatimFree arguments := by
  rcases ofPath_cases absolute leading last arguments with ⟨primitive, rfl, -⟩ | ⟨rfl, -⟩ | ⟨element, rfl, same⟩ |
    ⟨value, rfl, same⟩ | same
  · trivial
  · trivial
  · rw [same] at free
    exact ⟨free, trivial⟩
  · rw [same] at free
    exact ⟨free, trivial⟩
  · rw [same] at free
    exact free

mutual

/-- A declared type of which no part is kept as it stands is read from what is written of it. -/
theorem written_ofSyntax (type : TypeSyntax) (sound : type.Sound) (free : (ofSyntax type).VerbatimFree) :
    Written (ofSyntax type) := by
  cases type with
  | other => contradiction
  | parenthesized inner => exact written_ofSyntax inner sound free
  | path absolute leading last arguments =>
      rcases sound with ⟨areNames, begins, isSegment, argumentsSound⟩
      refine written_ofPath areNames begins (fun some => isSegment ?_)
        (written_ofSyntaxes argumentsSound (allVerbatimFree_of_ofPath free))
      rintro rfl
      exact some rfl

theorem written_ofSyntaxes {types : List TypeSyntax} (sound : TypeSyntax.AllSound types)
    (free : AllVerbatimFree (ofSyntaxes types)) : ∀ type ∈ ofSyntaxes types, Written type := by
  cases types with
  | nil => simp [ofSyntaxes]
  | cons first others =>
      intro type member
      rcases List.mem_cons.mp member with rfl | member
      · exact written_ofSyntax first sound.1 free.1
      · exact written_ofSyntaxes sound.2 free.2 type member

end

theorem exists_nullable (type : TypeRef) : ∃ value, type.nullable = .optional value := by
  unfold TypeRef.nullable
  split
  · cases type with
    | optional value => exact ⟨value, rfl⟩
    | scalar | string | list | named | verbatim => contradiction
  · exact ⟨type, rfl⟩

theorem Written.nullable {type : TypeRef} (written : Written type) : Written type.nullable := by
  unfold TypeRef.nullable
  split
  · exact written
  · exact written.optional

/-- What is written does not depend on what stands behind the type. -/
theorem texts_forms (type : TypeSyntax) (joint other : Bool) : Form.texts (type.forms joint) = Form.texts (type.forms other) := by
  cases type with
  | parenthesized | other => rfl
  | path absolute leading last arguments =>
      cases arguments <;> simp [TypeSyntax.forms, TypeSyntax.argumentForms, Form.texts, Form.text, Form.texts_append]

theorem Written.of_optional {value : TypeRef} (written : Written (TypeRef.optional value)) : Written value where
  plain := written.plain.1
  sound := written.sound.2.2.2.1
  readBack := TypeRef.optional.inj written.readBack
  spelled := by
    intro joint
    have whole : Form.texts ((TypeRef.optional value).toSyntax.forms true) =
        "Option<" ++ Form.texts (value.toSyntax.forms true) ++ ">" := by
      simp [toSyntax, TypeSyntax.forms, TypeSyntax.argumentForms, TypeSyntax.furtherForms, Syntax.pathForms,
        Syntax.leadingForms, Form.texts, Form.text, Form.texts_append, ← String.append_assoc]
    have same := whole.symm.trans (written.spelled true)
    rw [texts_forms value.toSyntax joint true]
    exact (String.append_right_inj "Option<").mp ((String.append_left_inj ">").mp same)

theorem Written.nonNull {type : TypeRef} (written : Written type) : Written type.nonNull := by
  cases type with
  | optional value => exact written.of_optional
  | scalar | string | list | named | verbatim => exact written

end Companion.TypeRef
