import Companion.FileSystem
import Companion.Proofs.Text.Split

set_option autoImplicit false

namespace Companion

/-- What an entry of a directory can be called: it is not empty, means no other directory, and holds neither a slash nor
a null character. -/
structure IsName (name : String) : Prop where
  ne_empty : name ≠ ""
  ne_current : name ≠ "."
  ne_parent : name ≠ ".."
  slash : '/' ∉ name.toList
  null : '\x00' ∉ name.toList

theorem isName_iff {name : String} :
    IsName name ↔ name ≠ "" ∧ name ≠ "." ∧ name ≠ ".." ∧ '/' ∉ name.toList ∧ '\x00' ∉ name.toList :=
  ⟨fun ⟨a, b, c, d, e⟩ => ⟨a, b, c, d, e⟩, fun ⟨a, b, c, d, e⟩ => ⟨a, b, c, d, e⟩⟩

instance (name : String) : Decidable (IsName name) := decidable_of_iff _ isName_iff.symm

/-- What can stand between two slashes of a path and counts: a text that is not empty and holds no slash. -/
structure IsStep (text : String) : Prop where
  ne_empty : text ≠ ""
  slash : '/' ∉ text.toList

theorem isStep_iff {text : String} : IsStep text ↔ text ≠ "" ∧ '/' ∉ text.toList :=
  ⟨fun ⟨a, b⟩ => ⟨a, b⟩, fun ⟨a, b⟩ => ⟨a, b⟩⟩

instance (text : String) : Decidable (IsStep text) := decidable_of_iff _ isStep_iff.symm

theorem IsName.isStep {name : String} (isName : IsName name) : IsStep name :=
  ⟨isName.ne_empty, isName.slash⟩

/-- What leads from a directory to an entry of it, if there can be one: a step that means no other directory. -/
structure IsEntry (name : String) : Prop extends IsStep name where
  ne_current : name ≠ "."
  ne_parent : name ≠ ".."

theorem isEntry_iff {name : String} : IsEntry name ↔ IsStep name ∧ name ≠ "." ∧ name ≠ ".." :=
  ⟨fun ⟨a, b, c⟩ => ⟨a, b, c⟩, fun ⟨a, b, c⟩ => ⟨a, b, c⟩⟩

instance (name : String) : Decidable (IsEntry name) := decidable_of_iff _ isEntry_iff.symm

theorem IsName.isEntry {name : String} (isName : IsName name) : IsEntry name :=
  ⟨isName.isStep, isName.ne_current, isName.ne_parent⟩

theorem areEntries_of_areNames {names : List String} (areNames : ∀ name ∈ names, IsName name) :
    ∀ name ∈ names, IsEntry name :=
  fun name member => (areNames name member).isEntry

theorem areSteps_of_areNames {names : List String} (areNames : ∀ name ∈ names, IsName name) :
    ∀ name ∈ names, IsStep name :=
  fun name member => (areNames name member).isStep

namespace FilePath

theorem pieces_ne_nil (path : FilePath) : path.pieces ≠ [] := by
  simp [pieces, Text.split, Text.splitChars_ne_nil]

theorem pieces_append_slash (left right : String) :
    (FilePath.mk (left ++ ("/" ++ right))).pieces = (FilePath.mk left).pieces ++ (FilePath.mk right).pieces := by
  have slash : "/" = String.singleton '/' := String.toList_injective (by simp)
  rw [slash]
  exact Text.split_append_separator (by simp) left right

theorem pieces_of_slashFree {name : String} (slashFree : '/' ∉ name.toList) : (FilePath.mk name).pieces = [name] :=
  Text.split_of_none fun c member => by
    have other : c ≠ '/' := fun same => slashFree (same ▸ member)
    simpa using other

theorem isAbsolute_of_slashFree {name : String} (slashFree : '/' ∉ name.toList) :
    (FilePath.mk name).isAbsolute = false := by
  cases chars : name.toList with
  | nil => simp [isAbsolute, chars]
  | cons c rest =>
      have other : c ≠ '/' := fun same => slashFree (by simp [chars, same])
      simp [isAbsolute, chars, other]

theorem exists_of_getLast?_slash {text : String} (ends : text.toList.getLast? = some '/') :
    ∃ front : String, text = front ++ ("/" ++ "") := by
  refine ⟨String.ofList text.toList.dropLast, ?_⟩
  have nonempty : text.toList ≠ [] := by
    intro empty
    simp [empty] at ends
  have last : text.toList.getLast nonempty = '/' := by
    rw [List.getLast?_eq_some_getLast nonempty] at ends
    exact Option.some.inj ends
  apply String.toList_injective
  have joined := List.dropLast_concat_getLast nonempty
  rw [last] at joined
  simpa using joined.symm

/-- How a name is joined: to nothing, behind a slash that is there, or behind a slash that is put there. -/
theorem join_cases (path : FilePath) {below : String} (relative : (FilePath.mk below).isAbsolute = false) :
    (path.text = "" ∧ path.join below = ⟨below⟩) ∨
      (∃ front, path.text = front ++ ("/" ++ "") ∧ path.join below = ⟨front ++ ("/" ++ below)⟩) ∨
      (path.text ≠ "" ∧ path.join below = ⟨path.text ++ ("/" ++ below)⟩) := by
  by_cases empty : path.text = ""
  · exact .inl ⟨empty, by simp [join, relative, empty]⟩
  · by_cases ends : path.text.toList.getLast? = some '/'
    · obtain ⟨front, text⟩ := exists_of_getLast?_slash ends
      refine .inr (.inl ⟨front, text, ?_⟩)
      simp only [join, relative, ends]
      simp [text, String.append_assoc]
    · refine .inr (.inr ⟨empty, ?_⟩)
      have isEmpty : path.text.isEmpty = false := by simpa using empty
      simp [join, relative, isEmpty, ends, String.append_assoc]

theorem steps_append_slash (left right : String) :
    FileSystem.stepsOf (left ++ ("/" ++ right)) = FileSystem.stepsOf left ++ FileSystem.stepsOf right := by
  simp [FileSystem.stepsOf, pieces_append_slash]

@[simp] theorem steps_empty : FileSystem.stepsOf "" = [] := by
  simp [FileSystem.stepsOf, pieces_of_slashFree]

theorem steps_join (path : FilePath) {below : String} (relative : (FilePath.mk below).isAbsolute = false) :
    FileSystem.stepsOf (path.join below).text = FileSystem.stepsOf path.text ++ FileSystem.stepsOf below := by
  obtain ⟨empty, joined⟩ | ⟨front, text, joined⟩ | ⟨-, joined⟩ := path.join_cases relative
  · simp [joined, empty]
  · rw [joined, text, steps_append_slash, steps_append_slash]
    simp
  · rw [joined, steps_append_slash]

/-- All that a path says beside the slashes is in its steps. -/
theorem mem_text_iff {c : Char} (other : c ≠ '/') (path : FilePath) :
    c ∈ path.text.toList ↔ ∃ step ∈ FileSystem.stepsOf path.text, c ∈ step.toList := by
  have pieces : (∃ piece ∈ path.pieces, c ∈ piece.toList) ↔ c ∈ path.text.toList :=
    Text.mem_split_iff (by simpa using other) path.text
  rw [← pieces]
  constructor
  · rintro ⟨piece, member, inside⟩
    have nonempty : piece ≠ "" := by
      rintro rfl
      simp at inside
    exact ⟨piece, List.mem_filter.mpr ⟨member, by simpa using nonempty⟩, inside⟩
  · rintro ⟨step, member, inside⟩
    exact ⟨step, (List.mem_filter.mp member).1, inside⟩

theorem steps_of_isStep {step : String} (isStep : IsStep step) : FileSystem.stepsOf step = [step] := by
  simp [FileSystem.stepsOf, pieces_of_slashFree isStep.slash, isStep.ne_empty]

theorem isAbsolute_join (path : FilePath) {below : String} (relative : (FilePath.mk below).isAbsolute = false) :
    (path.join below).isAbsolute = path.isAbsolute := by
  obtain ⟨empty, joined⟩ | ⟨front, text, joined⟩ | ⟨nonempty, joined⟩ := path.join_cases relative
  · rw [joined, relative]
    simp [isAbsolute, empty]
  · rw [joined]
    cases chars : front.toList <;> simp [isAbsolute, text, chars]
  · rw [joined]
    cases chars : path.text.toList with
    | nil => exact absurd (String.toList_eq_nil_iff.mp chars) nonempty
    | cons c rest => simp [isAbsolute, chars]

@[simp] theorem below_nil (path : FilePath) : path.below [] = path := rfl

@[simp] theorem below_cons (path : FilePath) (name : String) (names : List String) :
    path.below (name :: names) = (path.join name).below names := rfl

@[simp] theorem below_append (path : FilePath) (names others : List String) :
    path.below (names ++ others) = (path.below names).below others := by
  simp [below]

variable {names : List String}

theorem steps_below (path : FilePath) (areSteps : ∀ name ∈ names, IsStep name) :
    FileSystem.stepsOf (path.below names).text = FileSystem.stepsOf path.text ++ names := by
  induction names generalizing path with
  | nil => simp
  | cons name others ih =>
      have isStep := areSteps name (by simp)
      rw [below_cons, ih _ fun other member => areSteps other (by simp [member]),
        steps_join _ (isAbsolute_of_slashFree isStep.slash), steps_of_isStep isStep]
      simp

theorem isAbsolute_below (path : FilePath) (areSteps : ∀ name ∈ names, IsStep name) :
    (path.below names).isAbsolute = path.isAbsolute := by
  induction names generalizing path with
  | nil => rfl
  | cons name others ih =>
      rw [below_cons, ih _ fun other member => areSteps other (by simp [member]),
        isAbsolute_join _ (isAbsolute_of_slashFree (areSteps name (by simp)).slash)]

theorem below_injective (path : FilePath) {others : List String} (areSteps : ∀ name ∈ names, IsStep name)
    (othersAreSteps : ∀ name ∈ others, IsStep name) (same : path.below names = path.below others) :
    names = others := by
  have steps := congrArg (fun path => FileSystem.stepsOf path.text) same
  simpa [steps_below _ areSteps, steps_below _ othersAreSteps] using steps

def gap (path : FilePath) : String :=
  if path.text.isEmpty || path.text.toList.getLast? == some '/' then "" else "/"

theorem join_eq (path : FilePath) {below : String} (relative : (FilePath.mk below).isAbsolute = false) :
    path.join below = ⟨path.text ++ path.gap ++ below⟩ := by
  unfold join gap
  simp only [relative, Bool.false_eq_true, if_false]
  split <;> simp

/-- A path that ends in a name can lead to a file. -/
theorem asksForDirectory_join (path : FilePath) {name : String} (isStep : IsStep name) :
    FileSystem.asksForDirectory (path.join name).text = false := by
  have nonempty : name.toList ≠ [] := fun empty => isStep.ne_empty (String.toList_eq_nil_iff.mp empty)
  have last : name.toList.getLast nonempty ≠ '/' := fun same => isStep.slash (same ▸ List.getLast_mem nonempty)
  have ends : (path.join name).text.toList.getLast? = some (name.toList.getLast nonempty) := by
    rw [join_eq _ (isAbsolute_of_slashFree isStep.slash), String.toList_append, List.getLast?_append,
      List.getLast?_eq_some_getLast nonempty, Option.some_or]
  simp [FileSystem.asksForDirectory, ends, last]

/-- Joining nothing puts the slash that joining a name would put. -/
theorem join_empty_join (path : FilePath) {below : String} (relative : (FilePath.mk below).isAbsolute = false) :
    (path.join "").join below = path.join below := by
  have nothing : (FilePath.mk "").isAbsolute = false := by simp [isAbsolute]
  rw [join_eq _ nothing, join_eq _ relative, join_eq _ relative]
  by_cases empty : path.text = ""
  · simp [gap, empty]
  · by_cases ends : path.text.toList.getLast? = some '/'
    · simp [gap, ends]
    · have isEmpty : path.text.isEmpty = false := by simpa using empty
      simp [gap, ends, isEmpty]

/-- Only the end of a path decides whether a slash is put behind it. -/
theorem gap_append (front : String) {text : String} (nonempty : text ≠ "") :
    (FilePath.mk (front ++ text)).gap = (FilePath.mk text).gap := by
  have someChars : text.toList ≠ [] := fun empty => nonempty (String.toList_eq_nil_iff.mp empty)
  have last : (front ++ text).toList.getLast? = text.toList.getLast? := by
    obtain ⟨c, ends⟩ := Option.ne_none_iff_exists'.mp (mt List.getLast?_eq_none_iff.mp someChars)
    rw [String.toList_append, List.getLast?_append, ends, Option.some_or]
  have notEmpty : ∀ other : String, (other ++ text).isEmpty = false := fun other => by
    rw [Bool.eq_false_iff]
    simp [nonempty]
  have textNotEmpty : text.isEmpty = false := by simpa using notEmpty ""
  simp only [gap, last, notEmpty, textNotEmpty]

theorem join_join (path middle : FilePath) {below : String} (nonempty : middle.text ≠ "")
    (middleRelative : middle.isAbsolute = false) (relative : (FilePath.mk below).isAbsolute = false) :
    path.join (middle.join below).text = (path.join middle.text).join below := by
  have joinedRelative : (FilePath.mk (middle.join below).text).isAbsolute = false :=
    (isAbsolute_join middle relative).trans middleRelative
  rw [join_eq _ joinedRelative, join_eq _ relative, join_eq path middleRelative, join_eq _ relative,
    gap_append _ nonempty]
  simp [String.append_assoc]

theorem join_below (path middle : FilePath) (nonempty : middle.text ≠ "") (relative : middle.isAbsolute = false)
    (areSteps : ∀ name ∈ names, IsStep name) :
    path.join (middle.below names).text = (path.join middle.text).below names := by
  induction names generalizing middle with
  | nil => rfl
  | cons name others ih =>
      have isStep := areSteps name (by simp)
      have nameRelative := isAbsolute_of_slashFree isStep.slash
      have joinedNonempty : (middle.join name).text ≠ "" := by
        rw [join_eq _ nameRelative]
        simp [isStep.ne_empty]
      rw [below_cons, below_cons,
        ih _ joinedNonempty ((isAbsolute_join middle nameRelative).trans relative)
          fun other member => areSteps other (by simp [member]),
        join_join path middle nonempty relative nameRelative]

theorem pieces_intercalate {kept : List String} (nonempty : kept ≠ [])
    (slashFree : ∀ piece ∈ kept, '/' ∉ piece.toList) : (FilePath.mk (String.intercalate "/" kept)).pieces = kept :=
  Text.split_intercalate nonempty slashFree

theorem slashFree_of_mem_pieces {path : FilePath} {piece : String} (member : piece ∈ path.pieces) :
    '/' ∉ piece.toList := by
  obtain ⟨chars, isPiece, rfl⟩ := List.mem_map.mp member
  intro inside
  have noSlash : ('/' == '/') = false :=
    Text.not_separates_of_mem_splitChars isPiece (by simpa using inside)
  contradiction

/-- An absolute path has nothing in front of its first slash. -/
theorem isAbsolute_iff {path : FilePath} :
    path.isAbsolute = true ↔ ∃ others, others ≠ [] ∧ path.pieces = "" :: others := by
  unfold isAbsolute pieces Text.split
  cases path.text.toList with
  | nil => simp [Text.splitChars]
  | cons c rest =>
      cases isSlash : c == '/' with
      | true =>
          obtain rfl : c = '/' := eq_of_beq isSlash
          have divided : Text.splitChars (· == '/') ('/' :: rest) = [] :: Text.splitChars (· == '/') rest :=
            Text.splitChars_cons_separator (by simp) rest
          rw [divided]
          simp [Text.splitChars_ne_nil]
      | false =>
          cases pieces : Text.splitChars (· == '/') rest with
          | nil => exact absurd pieces (Text.splitChars_ne_nil rest)
          | cons piece others =>
              have other : c ≠ '/' := by simpa using isSlash
              have joined : Text.splitChars (· == '/') (c :: rest) = (c :: piece) :: others :=
                Text.splitChars_cons_other isSlash pieces
              rw [joined]
              simp [other]

theorem dropIdle_suffix (absolute : Bool) (backwards : List String) :
    dropIdle absolute backwards <:+ backwards := by
  induction backwards with
  | nil => exact List.suffix_refl _
  | cons piece before ih =>
      unfold dropIdle
      split
      · exact ih.trans (List.suffix_cons _ _)
      · exact List.suffix_refl _

/-- What is left when pieces are dropped ends in one that is not empty. -/
theorem ne_empty_of_dropIdle {absolute : Bool} {backwards before : List String} {piece : String}
    (kept : dropIdle absolute backwards = piece :: before) : piece ≠ "" := by
  induction backwards with
  | nil => simp [dropIdle] at kept
  | cons next others ih =>
      unfold dropIdle at kept
      split at kept
      · exact ih kept
      · rename_i counts
        obtain ⟨rfl, rfl⟩ := List.cons.inj kept
        intro empty
        simp [idle, empty] at counts

/-- A path has the pieces of its parent, if there are any, and behind them some of which one counts. -/
theorem pieces_parent {path parent : FilePath} (isParent : path.parent? = some parent) :
    ∃ kept dropped, path.pieces = kept ++ dropped ∧ (∃ piece ∈ dropped, piece ≠ "") ∧
      ((kept = [] ∧ parent = if path.isAbsolute then FilePath.mk "/" else FilePath.empty) ∨
        (kept ≠ [] ∧ kept ≠ [""] ∧ parent = FilePath.mk (String.intercalate "/" kept))) := by
  unfold parent? at isParent
  cases ends : dropIdle path.isAbsolute path.pieces.reverse with
  | nil => simp [ends] at isParent
  | cons last before =>
      obtain ⟨dropped, pieces⟩ := ends ▸ dropIdle_suffix path.isAbsolute path.pieces.reverse
      obtain ⟨inner, split⟩ := dropIdle_suffix path.isAbsolute before
      have before_eq : before.reverse = (dropIdle path.isAbsolute before).reverse ++ inner.reverse := by
        rw [← List.reverse_append, split]
      have pieces_eq : path.pieces =
          (dropIdle path.isAbsolute before).reverse ++ (inner.reverse ++ last :: dropped.reverse) := by
        rw [← List.reverse_reverse path.pieces, ← pieces, List.reverse_append, List.reverse_cons, before_eq]
        simp
      refine ⟨_, _, pieces_eq, ⟨last, by simp, ne_empty_of_dropIdle ends⟩, ?_⟩
      cases rest : dropIdle path.isAbsolute before with
      | nil => exact .inl ⟨rfl, by simpa [ends, rest] using isParent.symm⟩
      | cons piece others =>
          refine .inr ⟨by simp, fun only => ?_, by simpa [ends, rest] using isParent.symm⟩
          have same : piece :: others = [""] := by simpa using congrArg List.reverse only
          exact ne_empty_of_dropIdle rest (List.cons.inj same).1

section Front

variable {path : FilePath} {kept dropped : List String}

theorem pieces_front (nonempty : kept ≠ []) (split : path.pieces = kept ++ dropped) :
    (FilePath.mk (String.intercalate "/" kept)).pieces = kept :=
  pieces_intercalate nonempty fun piece member =>
    have isPiece : piece ∈ path.pieces := by rw [split]; exact List.mem_append_left _ member
    slashFree_of_mem_pieces isPiece

/-- Pieces at the front of a path are absolute if the path is, unless there is nothing but what is in front of a slash. -/
theorem isAbsolute_front (nonempty : kept ≠ []) (notOnly : kept ≠ [""]) (split : path.pieces = kept ++ dropped) :
    (FilePath.mk (String.intercalate "/" kept)).isAbsolute = path.isAbsolute := by
  rw [Bool.eq_iff_iff, isAbsolute_iff, isAbsolute_iff, pieces_front nonempty split, split]
  constructor
  · rintro ⟨next, _, rfl⟩
    exact ⟨next ++ dropped, by simp_all, rfl⟩
  · rintro ⟨others, _, same⟩
    cases kept with
    | nil => contradiction
    | cons first next =>
        obtain rfl : first = "" := (List.cons.inj same).1
        exact ⟨next, fun none => notOnly (by rw [none]), rfl⟩

end Front

/-- The steps of a parent lead along those of the path, and not to their end. -/
theorem steps_parent {path parent : FilePath} (isParent : path.parent? = some parent) :
    FileSystem.stepsOf parent.text <+: (FileSystem.stepsOf path.text).dropLast ∧
      parent.isAbsolute = path.isAbsolute := by
  obtain ⟨kept, dropped, pieces, ⟨piece, isDropped, counts⟩, ⟨rfl, rfl⟩ | ⟨nonempty, notOnly, rfl⟩⟩ :=
    pieces_parent isParent
  · cases absolute : path.isAbsolute with
    | true =>
        have noSteps : FileSystem.stepsOf "/" = [] := by
          have divided := steps_append_slash "" ""
          simpa using divided
        exact ⟨by simp [noSteps], by simp [isAbsolute]⟩
    | false => exact ⟨by simp [FilePath.empty], by simp [isAbsolute, FilePath.empty]⟩
  · refine ⟨?_, isAbsolute_front nonempty notOnly pieces⟩
    have someDropped : dropped.filter (· ≠ "") ≠ [] :=
      List.ne_nil_of_mem (List.mem_filter.mpr ⟨isDropped, by simpa using counts⟩)
    have same : FilePath.mk path.text = path := rfl
    unfold FileSystem.stepsOf
    rw [pieces_front nonempty pieces, same, pieces, List.filter_append,
      List.dropLast_append_of_ne_nil (by simpa using someDropped)]
    exact List.prefix_append _ _

end FilePath

end Companion
