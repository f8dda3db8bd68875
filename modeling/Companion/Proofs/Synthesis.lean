import Companion.Proofs.Syntax.Words
import Companion.Render.Kotlin
import Companion.Render.Rust
import Companion.Synthesis
import Mathlib.Data.List.Nodup

/-!
The names of the members of a companion. Functions never share a name, and properties stay apart when keywords among their
names are written in the way of an output language; so only a property that is named like a function can be in the way of
another member.
-/

set_option autoImplicit false

namespace Companion

open Syntax (IsIdentifier)

namespace Naming

theorem accessor_injective : Function.Injective accessor :=
  fun _ _ same => (String.append_right_inj _).mp same

theorem mutator_injective : Function.Injective mutator :=
  fun _ _ same => (String.append_right_inj _).mp same

theorem accessor_ne_mutator (name other : String) : accessor name ≠ mutator other := by
  intro same
  have chars := congrArg String.toList same
  simp [accessor, mutator] at chars

def methods (name : String) : List String :=
  [accessor name, mutator name]

theorem nodup_methods (name : String) : (methods name).Nodup := by
  simp [methods, accessor_ne_mutator]

theorem disjoint_methods {name other : String} (differ : name ≠ other) : (methods name).Disjoint (methods other) := by
  have accessors : accessor other ≠ accessor name := accessor_injective.ne differ.symm
  have mutators : mutator other ≠ mutator name := mutator_injective.ne differ.symm
  simp [methods, accessors, mutators, accessor_ne_mutator, (accessor_ne_mutator _ _).symm]

/-- Different names give different functions, two for each name. -/
theorem nodup_flatMap_methods {names : List String} (distinct : names.Nodup) : (names.flatMap methods).Nodup :=
  List.nodup_flatMap.mpr ⟨fun name _ => nodup_methods name, distinct.imp disjoint_methods⟩

theorem ne_of_mem_methods {name method : String} (member : method ∈ methods name) : name ≠ method := by
  rintro rfl
  have lengths : name.length = (accessor name).length ∨ name.length = (mutator name).length := by
    simpa [methods] using (List.mem_pair.mp member).imp (congrArg String.length) (congrArg String.length)
  simp [accessor, mutator] at lengths

/-- Names stay apart from the functions on them exactly if none is that of a function on another one. -/
theorem disjoint_flatMap_methods_iff {names : List String} :
    names.Disjoint (names.flatMap methods) ↔
      ∀ name ∈ names, ∀ other ∈ names, name ≠ other → name ≠ accessor other ∧ name ≠ mutator other := by
  have inMethods : ∀ {name other : String}, name ∉ methods other ↔ name ≠ accessor other ∧ name ≠ mutator other := by
    simp [methods]
  constructor
  · intro disjoint name isName other isOther _
    exact inMethods.mp fun member => disjoint isName (List.mem_flatMap.mpr ⟨other, isOther, member⟩)
  · intro apart name isName inAll
    obtain ⟨other, isOther, member⟩ := List.mem_flatMap.mp inAll
    have differ : name ≠ other := (ne_of_mem_methods member).symm
    exact inMethods.mpr (apart name isName other isOther differ) member

end Naming

namespace Render

/-- Names that are marked stay apart from those that are not, as long as the mark does not stand in names. -/
theorem eq_of_marked {words : List String} {front back name other : String} {c : Char} (isMark : c ∈ front.toList)
    (unmarked : c ∉ name.toList) (otherUnmarked : c ∉ other.toList)
    (same : (if words.contains name then front ++ name ++ back else name) =
      if words.contains other then front ++ other ++ back else other) : name = other := by
  have marks : ∀ text, c ∈ (front ++ text ++ back).toList := fun text => by simp [isMark]
  split at same <;> split at same
  · exact (String.append_right_inj _).mp ((String.append_left_inj _).mp same)
  · exact absurd (same ▸ marks name) otherUnmarked
  · exact absurd (same ▸ marks other) unmarked
  · exact same

theorem Rust.eq_of_identifier_eq {name other : String} (isIdentifier : IsIdentifier name)
    (otherIsIdentifier : IsIdentifier other) (same : Rust.identifier name = Rust.identifier other) : name = other := by
  have noMark : (Text.startsIdentifier '#' || Text.continuesIdentifier '#') = false := by decide
  have marked : (if Rust.keywords.contains name then "r#" ++ name ++ "" else name) =
      if Rust.keywords.contains other then "r#" ++ other ++ "" else other := by
    simpa [Rust.identifier] using same
  exact eq_of_marked (by decide) (isIdentifier.not_mem noMark) (otherIsIdentifier.not_mem noMark) marked

theorem Kotlin.eq_of_identifier_eq {name other : String} (isIdentifier : IsIdentifier name)
    (otherIsIdentifier : IsIdentifier other) (same : Kotlin.identifier name = Kotlin.identifier other) : name = other := by
  have noMark : (Text.startsIdentifier '`' || Text.continuesIdentifier '`') = false := by decide
  exact eq_of_marked (by decide) (isIdentifier.not_mem noMark) (otherIsIdentifier.not_mem noMark) same

end Render

namespace CompanionType

/-- The names of all functions: for each property its accessor and its mutator. -/
def methodNames (type : CompanionType) : List String :=
  type.properties.flatMap fun property => [property.accessor, property.mutator]

theorem map_name_members (type : CompanionType) :
    type.members.map Member.name = type.properties.map (·.name) ++ type.methodNames := by
  have methods : ∀ property : Property,
      (methodsOf property).map Member.name = [property.accessor, property.mutator] := fun _ => rfl
  simp only [members, methodNames, List.map_append, List.map_map, List.map_flatMap, methods]
  rfl

end CompanionType

section Synthesize

variable (name : String) (space : Namespace) (fields : List Field)

theorem map_name_synthesize : (synthesize name space fields).properties.map (·.name) = fields.map (·.name) := by
  simp only [synthesize, List.map_map]
  rfl

theorem methodNames_synthesize :
    (synthesize name space fields).methodNames = (fields.map (·.name)).flatMap Naming.methods := by
  simp only [synthesize, CompanionType.methodNames, List.flatMap_map]
  rfl

/-- Properties are written as different identifiers wherever different names are. -/
theorem nodup_escaped {fields : List Field} {escape : String → String} (distinct : (fields.map (·.name)).Nodup)
    (injective : ∀ field ∈ fields, ∀ other ∈ fields, escape field.name = escape other.name → field.name = other.name) :
    ((synthesize name space fields).properties.map fun property => escape property.name).Nodup := by
  have whole : ((synthesize name space fields).properties.map fun property => escape property.name) =
      (fields.map (·.name)).map escape := by
    rw [← map_name_synthesize name space, List.map_map]
    rfl
  rw [whole]
  refine distinct.map_on fun first isFirst second isSecond same => ?_
  obtain ⟨field, isField, rfl⟩ := List.mem_map.mp isFirst
  obtain ⟨other, isOther, rfl⟩ := List.mem_map.mp isSecond
  exact injective field isField other isOther same

end Synthesize

/-- The functions of a companion have different names, if the fields have; its properties are written as different
identifiers in either output language; and all its members have different names exactly if no field has the name of a
function on another one. -/
theorem synthesize_distinct (name : String) (space : Namespace) {fields : List Field}
    (areIdentifiers : ∀ field ∈ fields, IsIdentifier field.name) (distinct : (fields.map (·.name)).Nodup) :
    let type := synthesize name space fields
    type.methodNames.length = 2 * fields.length ∧ type.methodNames.Nodup ∧
      (type.properties.map fun property => Render.Rust.identifier property.name).Nodup ∧
      (type.properties.map fun property => Render.Kotlin.identifier property.name).Nodup ∧
      ((type.members.map Member.name).Nodup ↔ ∀ field ∈ fields, ∀ other ∈ fields, field.name ≠ other.name →
        field.name ≠ "getThe" ++ other.name ∧ field.name ≠ "setThe" ++ other.name) := by
  intro type
  have methods : type.methodNames = (fields.map (·.name)).flatMap Naming.methods := methodNames_synthesize name space fields
  have functions : type.methodNames.Nodup := methods ▸ Naming.nodup_flatMap_methods distinct
  refine ⟨?_, functions, ?_, ?_, ?_⟩
  · simp [methods, Naming.methods, List.flatMap_map, Nat.mul_comm]
  · exact nodup_escaped name space distinct fun field isField other isOther =>
      Render.Rust.eq_of_identifier_eq (areIdentifiers field isField) (areIdentifiers other isOther)
  · exact nodup_escaped name space distinct fun field isField other isOther =>
      Render.Kotlin.eq_of_identifier_eq (areIdentifiers field isField) (areIdentifiers other isOther)
  · have apart : (type.members.map Member.name).Nodup ↔
        (fields.map (·.name)).Disjoint ((fields.map (·.name)).flatMap Naming.methods) := by
      rw [type.map_name_members, map_name_synthesize, List.nodup_append', methods]
      simp only [distinct, methods ▸ functions, true_and]
    rw [apart, Naming.disjoint_flatMap_methods_iff]
    simp only [List.forall_mem_map]
    rfl

def clashingFields : List Field :=
  [⟨"age", .scalar .i32, []⟩, ⟨"type", .string, []⟩, ⟨"getTheage", .string, []⟩]

/-- A property and a function share a name, and nothing else does. -/
theorem synthesize_distinct_clashing :
    (∀ field ∈ clashingFields, IsIdentifier field.name) ∧ (clashingFields.map (·.name)).Nodup ∧
      (synthesize "Person" .root clashingFields).methodNames.Nodup ∧
      ¬ ((synthesize "Person" .root clashingFields).members.map Member.name).Nodup := by
  have areIdentifiers : ∀ field ∈ clashingFields, IsIdentifier field.name := by decide +kernel
  have distinct : (clashingFields.map (·.name)).Nodup := by decide
  obtain ⟨-, functions, -, -, members⟩ := synthesize_distinct "Person" .root areIdentifiers distinct
  refine ⟨areIdentifiers, distinct, functions, fun nodup => ?_⟩
  have apart := members.mp nodup ⟨"getTheage", .string, []⟩ (by simp [clashingFields]) ⟨"age", .scalar .i32, []⟩
    (by simp [clashingFields]) (by decide)
  exact apart.1 (by decide)

end Companion
