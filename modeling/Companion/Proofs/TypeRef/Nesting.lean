import Companion.TypeRef
import Mathlib.Data.List.Basic

set_option autoImplicit false

namespace Companion

namespace TypeRef

@[elab_as_elim]
theorem nested {motive : TypeRef → Prop} (scalar : ∀ primitive, motive (.scalar primitive)) (string : motive .string)
    (list : ∀ element, motive element → motive (.list element))
    (optional : ∀ value, motive value → motive (.optional value))
    (named : ∀ path arguments, (∀ argument ∈ arguments, motive argument) → motive (.named path arguments))
    (verbatim : ∀ text, motive (.verbatim text)) (type : TypeRef) : motive type :=
  match type with
  | .scalar primitive => scalar primitive
  | .string => string
  | .list element => list element (nested scalar string list optional named verbatim element)
  | .optional value => optional value (nested scalar string list optional named verbatim value)
  | .named path arguments =>
      named path arguments fun argument _ => nested scalar string list optional named verbatim argument
  | .verbatim text => verbatim text

mutual

/-- The paths of the named types in a type, from the outside to the inside. -/
def paths : TypeRef → List (List String)
  | scalar _ | string | verbatim _ => []
  | list element => paths element
  | optional value => paths value
  | named path arguments => path :: pathsOf arguments

/-- The paths of the named types in several types. -/
def pathsOf : List TypeRef → List (List String)
  | [] => []
  | type :: others => paths type ++ pathsOf others

end

theorem mem_pathsOf {types : List TypeRef} {path : List String} : path ∈ pathsOf types ↔ ∃ type ∈ types, path ∈ type.paths := by
  induction types with
  | nil => simp [pathsOf]
  | cons type others ih => simp [pathsOf, ih]

theorem forall_mem_paths_named {holds : List String → Prop} {path : List String} {arguments : List TypeRef} :
    (∀ other ∈ (named path arguments).paths, holds other) ↔
      holds path ∧ ∀ argument ∈ arguments, ∀ other ∈ argument.paths, holds other := by
  rw [paths, List.forall_mem_cons]
  simp only [mem_pathsOf]
  constructor
  · rintro ⟨own, inside⟩
    exact ⟨own, fun argument member other isPath => inside other ⟨argument, member, isPath⟩⟩
  · rintro ⟨own, inside⟩
    exact ⟨own, fun other ⟨argument, member, isPath⟩ => inside argument member other isPath⟩

theorem paths_nullable (type : TypeRef) : type.nullable.paths = type.paths := by
  unfold nullable
  split
  · rfl
  · rw [paths]

end TypeRef

end Companion
