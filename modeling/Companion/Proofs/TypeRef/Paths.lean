import Companion.Proofs.Render.RustTypes

/-!
Paths of field types. A type that a path names shows the whole path, unless the last name is that of strings, lists or
optional values: then the names in front of it are dropped. They may be dropped if they are the standard library's own, and
every other path of that form is taken for a type that it does not name.
-/

set_option autoImplicit false

namespace Companion

open Companion.Syntax (IsPathName TypeSyntax)

namespace Syntax.TypeSyntax

mutual

/-- A type with all types inside it: between its parentheses, and among its arguments to any depth. -/
def parts : TypeSyntax → List TypeSyntax
  | path absolute leading last arguments => path absolute leading last arguments :: allParts arguments
  | parenthesized inner => parenthesized inner :: parts inner
  | other spelling => [other spelling]

def allParts : List TypeSyntax → List TypeSyntax
  | [] => []
  | type :: types => parts type ++ allParts types

end

mutual

theorem Sound.parts {type : TypeSyntax} (sound : type.Sound) {part : TypeSyntax} (isPart : part ∈ type.parts) :
    part.Sound := by
  cases type with
  | path absolute leading last arguments =>
      rcases List.mem_cons.mp isPart with rfl | inside
      · exact sound
      · exact AllSound.parts sound.2.2.2 inside
  | parenthesized inner =>
      rcases List.mem_cons.mp isPart with rfl | inside
      · exact sound
      · have innerSound : inner.Sound := sound
        exact innerSound.parts inside
  | other spelling =>
      rw [List.mem_singleton.mp isPart]
      exact sound

theorem AllSound.parts {types : List TypeSyntax} (sound : AllSound types) {part : TypeSyntax}
    (isPart : part ∈ allParts types) : part.Sound := by
  cases types with
  | nil => contradiction
  | cons type types =>
      rcases List.mem_append.mp isPart with inFirst | inOthers
      · exact Sound.parts sound.1 inFirst
      · exact AllSound.parts sound.2 inOthers

end

end Syntax.TypeSyntax

namespace TypeRef

def shownPath (type : TypeRef) : String :=
  String.ofList (type.render.toList.takeWhile (· ≠ '<'))

def declaredPath (absolute : Bool) (leading : List String) (last : String) : String :=
  (if absolute then "::" else "") ++ String.intercalate "::" (leading ++ [last])

/-- The names that stand for strings, lists and optional values, each with the number of its arguments. -/
def preludeNames : List (String × Nat) :=
  [("String", 0), ("Vec", 1), ("Option", 1)]

/-- The standard library's own paths of strings, lists and optional values. -/
def standardPaths : List (List String × String) :=
  [(["std", "string"], "String"), (["alloc", "string"], "String"), (["std", "vec"], "Vec"), (["alloc", "vec"], "Vec"),
    (["std", "option"], "Option"), (["core", "option"], "Option")]

/-- Whether a path is the standard library's own, up to the marks of raw names. -/
def IsStandard (leading : List String) (last : String) : Prop :=
  (leading.map Index.plainName, last) ∈ standardPaths

instance (leading : List String) (last : String) : Decidable (IsStandard leading last) :=
  inferInstanceAs (Decidable (_ ∈ _))

/-- Whether a type shows the whole path that it was declared with, or drops the standard library's own path in front of its
last name. -/
def KeepsPath (type : TypeRef) (absolute : Bool) (leading : List String) (last : String) : Prop :=
  type.shownPath = declaredPath absolute leading last ∨ (type.shownPath = last ∧ IsStandard leading last)

/-- Whether a path that is not the standard library's own ends in a name that stands for strings, lists or optional values,
with as many arguments. -/
def Shadows (leading : List String) (last : String) (count : Nat) : Prop :=
  (last, count) ∈ preludeNames ∧ ¬IsStandard leading last

instance (leading : List String) (last : String) (count : Nat) : Decidable (Shadows leading last count) :=
  inferInstanceAs (Decidable (_ ∧ _))

theorem notMem_of_isPathName {name : String} (isName : IsPathName name) {c : Char} (isForeign : c = ':' ∨ c = '<') :
    c ∉ name.toList := by
  have never : (Text.startsIdentifier c || Text.continuesIdentifier c) = false := by
    rcases isForeign with rfl | rfl <;> decide +kernel
  rcases Syntax.isWord_of_isPathName isName with isIdentifier | ⟨inner, isIdentifier, -, rfl⟩
  · exact isIdentifier.not_mem never
  · have notMark : c ≠ 'r' ∧ c ≠ '#' := by rcases isForeign with rfl | rfl <;> decide
    simpa [notMark] using isIdentifier.not_mem never

theorem mem_intercalate_colons {names : List String} {c : Char} (noColon : c ≠ ':')
    (member : c ∈ (String.intercalate "::" names).toList) : ∃ name ∈ names, c ∈ name.toList := by
  induction names with
  | nil => simp at member
  | cons name names ih =>
      cases names with
      | nil => exact ⟨name, by simp, by simpa using member⟩
      | cons next others =>
          rw [String.intercalate_cons_cons] at member
          simp only [String.toList_append, List.mem_append] at member
          rcases member with (inName | isColon) | inOthers
          · exact ⟨name, List.mem_cons_self, inName⟩
          · exact absurd (by simpa using isColon) noColon
          · rcases ih inOthers with ⟨found, isName, inside⟩
            exact ⟨found, List.mem_cons_of_mem _ isName, inside⟩

theorem declaredPath_eq (absolute : Bool) (leading : List String) (last : String) :
    String.intercalate "::" (pathNames absolute leading last) = declaredPath absolute leading last := by
  cases absolute with
  | false => simp [pathNames, declaredPath]
  | true =>
      have names : pathNames true leading last = "" :: (leading ++ [last]) := by simp [pathNames]
      rw [names, intercalate_colons, String.empty_append]
      rfl

/-- A path with colons in front or with several names has a colon. -/
theorem colon_mem_declaredPath {absolute : Bool} {leading : List String} (last : String)
    (isLong : absolute = true ∨ leading ≠ []) : ':' ∈ (declaredPath absolute leading last).toList := by
  rw [declaredPath, String.toList_append, List.mem_append]
  rcases isLong with rfl | several
  · exact .inl (by simp)
  · cases leading with
    | nil => contradiction
    | cons name names =>
        rw [List.cons_append, intercalate_colons]
        exact .inr (by simp)

theorem angle_notMem_declaredPath {leading : List String} {last : String}
    (areNames : ∀ name ∈ leading ++ [last], IsPathName name) (absolute : Bool) :
    '<' ∉ (declaredPath absolute leading last).toList := by
  intro isAngle
  rw [declaredPath, String.toList_append, List.mem_append] at isAngle
  rcases isAngle with inFront | inNames
  · cases absolute <;> simp at inFront
  · rcases mem_intercalate_colons (by decide) inNames with ⟨name, isName, inside⟩
    exact notMem_of_isPathName (areNames name isName) (.inr rfl) inside

theorem shownPath_of_render {type : TypeRef} (path behind : String) (isText : type.render = path ++ behind)
    (noAngle : '<' ∉ path.toList) (isEnd : behind = "" ∨ behind.toList.head? = some '<') : type.shownPath = path := by
  have whole : ∀ c ∈ path.toList, decide (c ≠ '<') = true := fun c member =>
    decide_eq_true fun isAngle => noAngle (isAngle ▸ member)
  have stops : behind.toList.takeWhile (· ≠ '<') = [] := by
    rcases isEnd with rfl | isAngle
    · rfl
    · cases chars : behind.toList with
      | nil => rfl
      | cons c rest =>
          obtain rfl : c = '<' := by simpa [chars] using isAngle
          rfl
  rw [shownPath, isText, String.toList_append, List.takeWhile_append_of_pos whole, stops, List.append_nil,
    String.ofList_toList]

theorem shownPath_named {path : List String} (noAngle : '<' ∉ (String.intercalate "::" path).toList)
    (arguments : List TypeRef) : (named path arguments).shownPath = String.intercalate "::" path := by
  cases arguments with
  | nil => exact shownPath_of_render _ "" (by simp [render]) noAngle (.inl rfl)
  | cons first others =>
      exact shownPath_of_render _ ("<" ++ first.render ++ renderOthers others ++ ">")
        (by simp [render, String.append_assoc]) noAngle (.inr (by simp))

theorem shownPath_list (element : TypeRef) : (list element).shownPath = "Vec" :=
  shownPath_of_render "Vec" ("<" ++ element.render ++ ">") (by simp [render, ← String.append_assoc]) (by decide)
    (.inr (by simp))

theorem shownPath_optional (value : TypeRef) : (optional value).shownPath = "Option" :=
  shownPath_of_render "Option" ("<" ++ value.render ++ ">") (by simp [render, ← String.append_assoc]) (by decide)
    (.inr (by simp))

theorem length_ofSyntaxes (types : List TypeSyntax) : (ofSyntaxes types).length = types.length := by
  induction types with
  | nil => rfl
  | cons type types ih => rw [ofSyntaxes, List.length_cons, List.length_cons, ih]

/-- A path that is not a single name is shown as a whole, or is taken for a string, a list or an optional value. -/
theorem shownPath_ofPath {absolute : Bool} {leading : List String} {last : String}
    (areNames : ∀ name ∈ leading ++ [last], IsPathName name) (isLong : absolute = true ∨ leading ≠ [])
    (arguments : List TypeRef) :
    (ofPath absolute leading last arguments).shownPath =
      if (last, arguments.length) ∈ preludeNames then last else declaredPath absolute leading last := by
  have noScalar : scalarOfPath? absolute leading last arguments = none := by
    rcases isLong with rfl | several <;> simp [scalarOfPath?, *]
  unfold ofPath
  rw [noScalar]
  dsimp only
  split
  · rfl
  · exact shownPath_list _
  · exact shownPath_optional _
  · rename_i noString noList noOption
    have other : (last, arguments.length) ∉ preludeNames := by
      intro known
      simp only [preludeNames, List.mem_cons, Prod.mk.injEq, List.not_mem_nil, or_false] at known
      rcases known with ⟨isString, none⟩ | ⟨isList, one⟩ | ⟨isOption, one⟩
      · exact noString isString (List.length_eq_zero_iff.mp none)
      · rcases List.length_eq_one_iff.mp one with ⟨element, rfl⟩
        exact noList element isList rfl
      · rcases List.length_eq_one_iff.mp one with ⟨value, rfl⟩
        exact noOption value isOption rfl
    have noAngle := declaredPath_eq absolute leading last ▸ angle_notMem_declaredPath areNames absolute
    rw [if_neg other, shownPath_named noAngle, declaredPath_eq]

/-- Of every path in a type that was read, with colons in front or with several names, the whole path is shown, or the
standard library's own path is dropped, unless its last name shadows that of strings, lists or optional values; and then
only that name is shown. -/
theorem keepsPath_iff {text : String} {type : TypeSyntax} (read : Syntax.readType text = .ok type) {absolute : Bool}
    {leading : List String} {last : String} {arguments : List TypeSyntax}
    (isPart : .path absolute leading last arguments ∈ type.parts) (isLong : absolute = true ∨ leading ≠ []) :
    (KeepsPath (ofSyntax (.path absolute leading last arguments)) absolute leading last ↔
        ¬Shadows leading last arguments.length) ∧
      (Shadows leading last arguments.length →
        (ofSyntax (.path absolute leading last arguments)).shownPath = last) := by
  have sound : (TypeSyntax.path absolute leading last arguments).Sound := (Syntax.sound_readType read).parts isPart
  have areNames := sound.1
  have shown := shownPath_ofPath areNames isLong (ofSyntaxes arguments)
  rw [length_ofSyntaxes] at shown
  -- A single name has no colon, so it is not the whole path.
  have notWhole : last ≠ declaredPath absolute leading last := fun same =>
    notMem_of_isPathName (areNames last (by simp)) (.inl rfl) (same ▸ colon_mem_declaredPath last isLong)
  by_cases known : (last, arguments.length) ∈ preludeNames
  · rw [if_pos known] at shown
    have kept : KeepsPath (ofSyntax (.path absolute leading last arguments)) absolute leading last ↔
        IsStandard leading last := by
      simp [KeepsPath, ofSyntax, shown, notWhole]
    exact ⟨by simp [kept, Shadows, known], fun _ => shown⟩
  · rw [if_neg known] at shown
    exact ⟨⟨fun _ shadows => known shadows.1, fun _ => .inl shown⟩, fun shadows => absurd shadows.1 known⟩

/-- A type of units inside other types shadows that of strings. -/
theorem keepsPath_iff_units :
    let units : TypeSyntax := .path false ["units"] "String" []
    let type : TypeSyntax := .path false [] "Vec" [.path false [] "Option" [.parenthesized units]]
    Syntax.readType "Vec<Option<(units::String)>>" = .ok type ∧ units ∈ type.parts ∧
      ¬KeepsPath (ofSyntax units) false ["units"] "String" ∧ (ofSyntax units).shownPath = "String" := by
  intro units type
  have read : Syntax.readType "Vec<Option<(units::String)>>" = .ok type := Syntax.ok_of_toOption (by decide +kernel)
  have isPart : units ∈ type.parts := by decide
  have shadows : Shadows ["units"] "String" 0 := by decide
  rcases keepsPath_iff read isPart (.inr (by decide)) with ⟨kept, shown⟩
  exact ⟨read, isPart, fun keeps => kept.mp keeps shadows, shown shadows⟩

end TypeRef

end Companion
