import Companion.Proofs.FilePath

set_option autoImplicit false

namespace Companion.FilePath

theorem ofPiece?_of_isEntry {name : String} (isEntry : IsEntry name) : Component.ofPiece? name = some (.name name) := by
  simp [Component.ofPiece?, isEntry.ne_empty, isEntry.ne_current, isEntry.ne_parent]

/-- Whether a path starts at the working directory, said explicitly, is seen from its first piece. -/
def front (path : FilePath) : List Component :=
  if path.isAbsolute then [.root] else if path.pieces.head? == some "." then [.current] else []

theorem components_eq (path : FilePath) : path.components = path.front ++ path.pieces.filterMap Component.ofPiece? := rfl

/-- A name comes behind the pieces of a path, of which an empty one at the end may be lost. -/
theorem pieces_join (path : FilePath) {name : String} (isEntry : IsEntry name) :
    ∃ before, (path.join name).pieces = before ++ [name] ∧
      before.filterMap Component.ofPiece? = path.pieces.filterMap Component.ofPiece? ∧
      ((before ++ [name]).head? == some ".") = (path.pieces.head? == some ".") := by
  have nameAlone : (FilePath.mk name).pieces = [name] := pieces_of_slashFree isEntry.slash
  have emptyAlone : (FilePath.mk "").pieces = [""] := pieces_of_slashFree (by simp)
  have head : ∀ pieces others : List String, pieces ≠ [] → (pieces ++ others).head? = pieces.head? :=
    fun pieces others some => by rw [List.head?_append, List.head?_eq_some_head some, Option.some_or]
  obtain ⟨empty, joined⟩ | ⟨front, text, joined⟩ | ⟨-, joined⟩ := path.join_cases (isAbsolute_of_slashFree isEntry.slash)
  · have whole : path.pieces = [""] := by rw [← emptyAlone, ← empty]
    exact ⟨[], by rw [joined, nameAlone, List.nil_append], by simp [whole, Component.ofPiece?],
      by simp [whole, isEntry.ne_current]⟩
  · have whole : path.pieces = (FilePath.mk front).pieces ++ [""] := by
      rw [← emptyAlone, ← pieces_append_slash, ← text]
    refine ⟨(FilePath.mk front).pieces, by rw [joined, pieces_append_slash, nameAlone], ?_, ?_⟩
    · simp [whole, Component.ofPiece?]
    · rw [whole, head _ _ (pieces_ne_nil _), head _ _ (pieces_ne_nil _)]
  · refine ⟨path.pieces, by rw [joined, pieces_append_slash, nameAlone], rfl, ?_⟩
    rw [head _ _ (pieces_ne_nil _)]

/-- Joining a name adds it to the components, however the path is spelled. -/
theorem components_join (path : FilePath) {name : String} (isEntry : IsEntry name) :
    (path.join name).components = path.components ++ [.name name] := by
  obtain ⟨before, pieces, same, head⟩ := path.pieces_join isEntry
  have absolute := isAbsolute_join path (isAbsolute_of_slashFree isEntry.slash)
  have front : (path.join name).front = path.front := by rw [FilePath.front, FilePath.front, absolute, pieces, head]
  rw [components_eq, components_eq, front, pieces, List.filterMap_append, same]
  simp [ofPiece?_of_isEntry isEntry]

variable {names : List String}

theorem components_below (path : FilePath) (areEntries : ∀ name ∈ names, IsEntry name) :
    (path.below names).components = path.components ++ names.map .name := by
  induction names generalizing path with
  | nil => simp
  | cons name others ih =>
      have isEntry := areEntries name (by simp)
      rw [below_cons, ih _ fun other member => areEntries other (by simp [member]), components_join path isEntry]
      simp

/-- Below a directory stand the names that were joined to it. -/
theorem componentsBelow_below (path : FilePath) (areEntries : ∀ name ∈ names, IsEntry name) :
    path.componentsBelow (path.below names) = names.map .name := by
  unfold componentsBelow
  simp [components_below path areEntries]

theorem fileName?_below (path : FilePath) (areEntries : ∀ name ∈ names, IsEntry name) (someNames : names ≠ []) :
    (path.below names).fileName? = names.getLast? := by
  unfold fileName?
  obtain ⟨last, ends⟩ := Option.ne_none_iff_exists'.mp (mt List.getLast?_eq_none_iff.mp someNames)
  rw [components_below path areEntries, List.getLast?_append, List.getLast?_map, ends]
  rfl

/-- A name with an extension is divided at a dot, which is not its first character. -/
theorem splitName_spec {name ending : String} (extension : (splitName name).2 = some ending) :
    name = (splitName name).1 ++ ("." ++ ending) ∧ (splitName name).1 ≠ "" := by
  have whole := List.takeWhile_append_dropWhile (p := (· ≠ '.')) (l := name.toList.reverse)
  have behind : name.toList.reverse.drop (name.toList.reverse.takeWhile (· ≠ '.')).length =
      name.toList.reverse.dropWhile (· ≠ '.') := by
    have dropped := congrArg (List.drop (name.toList.reverse.takeWhile (· ≠ '.')).length) whole
    rw [← dropped, List.drop_left]
  have first := List.head?_dropWhile_not (· ≠ '.') name.toList.reverse
  simp only [splitName] at extension ⊢
  rw [behind] at extension ⊢
  generalize name.toList.reverse.dropWhile (· ≠ '.') = rest at *
  generalize name.toList.reverse.takeWhile (· ≠ '.') = after at *
  match rest with
  | [] => contradiction
  | [_] => contradiction
  | dot :: next :: before =>
      obtain rfl : dot = '.' := by simpa using first
      obtain rfl : String.ofList after.reverse = ending := Option.some.inj extension
      have forwards := congrArg List.reverse whole
      exact ⟨String.toList_injective (by simpa using forwards.symm), by simp⟩

/-- What stands behind the last dot of a name is its extension, if something stands in front of that dot. -/
theorem splitName_append {stem ending : String} (someStem : stem ≠ "") (noDot : '.' ∉ ending.toList) :
    splitName (stem ++ ("." ++ ending)) = (stem, some ending) := by
  have someChars : stem.toList.reverse ≠ [] := by simpa using someStem
  obtain ⟨last, before, chars⟩ := List.exists_cons_of_ne_nil someChars
  have backwards : (stem ++ ("." ++ ending)).toList.reverse = ending.toList.reverse ++ '.' :: last :: before := by
    simp [← chars]
  have after : (ending.toList.reverse ++ '.' :: last :: before).takeWhile (· ≠ '.') = ending.toList.reverse := by
    rw [List.takeWhile_append_of_pos fun c member => ?_]
    · simp
    · have other : c ≠ '.' := fun same => noDot (same ▸ List.mem_reverse.mp member)
      simpa using other
  have whole : String.ofList (last :: before).reverse = stem := by simp [← chars]
  simp only [splitName, backwards, after, List.drop_left, whole, List.reverse_reverse, String.ofList_toList]

end Companion.FilePath
