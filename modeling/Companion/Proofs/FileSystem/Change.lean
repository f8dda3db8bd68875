import Companion.Proofs.FilePath
import Companion.Proofs.FileSystem.Resolution

/-!
How the operations on files change a tree without links. A change makes directories at places that were free and writes
files at places that were free or held a file; it empties no place, and what was a directory stays one. Where this
happens is given by two predicates on places, so that changes can be chained and bounded.
-/

set_option autoImplicit false

namespace Companion.FileSystem

def Nowhere (_ : List String) : Prop := False

/-- From one tree to another, directories were made at some places and files written at others. -/
structure Changes (made written : List String → Prop) (before after : FileSystem) : Prop where
  working : after.working = before.working
  faces : ∀ names, after.face? names = before.face? names ∨
    (before.face? names = none ∧ after.face? names = some .directory ∧ made names) ∨
    ((before.face? names = none ∨ ∃ content, before.face? names = some (.file content)) ∧
      (∃ content, after.face? names = some (.file content)) ∧ written names)

namespace Changes

variable {made written : List String → Prop} {before middle after : FileSystem}

theorem refl (files : FileSystem) : Changes made written files files :=
  ⟨rfl, fun _ => .inl rfl⟩

theorem mono {moreMade moreWritten : List String → Prop} (changes : Changes made written before after)
    (madeMore : ∀ names, made names → moreMade names) (writtenMore : ∀ names, written names → moreWritten names) :
    Changes moreMade moreWritten before after := by
  refine ⟨changes.working, fun names => ?_⟩
  obtain same | ⟨free, now, isMade⟩ | ⟨bare, now, isWritten⟩ := changes.faces names
  · exact .inl same
  · exact .inr (.inl ⟨free, now, madeMore names isMade⟩)
  · exact .inr (.inr ⟨bare, now, writtenMore names isWritten⟩)

theorem orElse {more : List String → Prop} (changes : Changes Nowhere written before after) :
    Changes made (fun names => written names ∨ more names) before after :=
  changes.mono (fun _ never => never.elim) fun _ isWritten => .inl isWritten

theorem trans (first : Changes made written before middle) (second : Changes made written middle after) :
    Changes made written before after := by
  refine ⟨second.working.trans first.working, fun names => ?_⟩
  obtain same | ⟨free, now, isMade⟩ | ⟨bare, now, isWritten⟩ := second.faces names
  · rw [same]
    exact first.faces names
  · obtain before_eq | ⟨_, directory, _⟩ | ⟨_, ⟨_, file⟩, _⟩ := first.faces names
    · exact .inr (.inl ⟨before_eq ▸ free, now, isMade⟩)
    · simp [directory] at free
    · simp [file] at free
  · refine .inr (.inr ⟨?_, now, isWritten⟩)
    obtain before_eq | ⟨_, directory, _⟩ | ⟨wasBare, _, _⟩ := first.faces names
    · rwa [before_eq] at bare
    · simp [directory] at bare
    · exact wasBare

theorem directory (changes : Changes made written before after) {names : List String}
    (isDirectory : before.face? names = some .directory) : after.face? names = some .directory := by
  obtain same | ⟨free, _, _⟩ | ⟨bare, _, _⟩ := changes.faces names
  · rw [same, isDirectory]
  · simp [isDirectory] at free
  · simp [isDirectory] at bare

theorem linkFree (changes : Changes made written before after) (none : before.LinkFree) : after.LinkFree := by
  intro names target isLink
  obtain same | ⟨_, now, _⟩ | ⟨_, ⟨content, now⟩, _⟩ := changes.faces names
  · exact none names target (same ▸ isLink)
  · simp [now] at isLink
  · simp [now] at isLink

/-- A file at a place that is not written to was there before, and the other way round. -/
theorem file_iff (changes : Changes made written before after) {names : List String} (unwritten : ¬ written names)
    (content : ByteArray) :
    after.face? names = some (.file content) ↔ before.face? names = some (.file content) := by
  obtain same | ⟨free, now, _⟩ | ⟨_, _, isWritten⟩ := changes.faces names
  · rw [same]
  · simp [free, now]
  · exact absurd isWritten unwritten

theorem new_directory (changes : Changes made written before after) {names : List String}
    (isDirectory : after.face? names = some .directory) :
    before.face? names = some .directory ∨ (before.face? names = none ∧ made names) := by
  obtain same | ⟨free, _, isMade⟩ | ⟨_, ⟨content, now⟩, _⟩ := changes.faces names
  · exact .inl (same ▸ isDirectory)
  · exact .inr ⟨free, isMade⟩
  · simp [now] at isDirectory

end Changes

variable {files : FileSystem}

theorem parent_of_get? {names : List String} {node : Node} (found : files.get? names = some node)
    (below : names ≠ []) : files.face? names.dropLast = some .directory := by
  have split : names.dropLast ++ [names.getLast below] = names := List.dropLast_concat_getLast below
  unfold get? at found
  rw [← split, Node.get?_append] at found
  rw [face?_eq_map]
  unfold get?
  cases parent : files.root.get? names.dropLast with
  | none => simp [parent] at found
  | some directory =>
      cases directory with
      | file content => simp [parent, Node.get?] at found
      | link target => simp [parent, Node.get?] at found
      | directory entries => rfl

theorem fits_of_file {names : List String} {content : ByteArray} (found : files.get? names = some (.file content)) :
    files.root.Fits names :=
  ⟨fun below => parent_of_get? found below, .inr ⟨content, by
    have face := files.face?_eq_map names
    rw [found] at face
    exact face⟩⟩

theorem changes_put_directory {names : List String} (fits : files.root.Fits names)
    (free : files.face? names = none) : Changes (· = names) Nowhere files (files.put names .emptyDirectory) := by
  refine ⟨rfl, fun other => ?_⟩
  rw [face?_put Node.isLeaf_emptyDirectory fits]
  by_cases same : other = names
  · subst same
    exact .inr (.inl ⟨free, by simp [Node.emptyDirectory, Node.face], rfl⟩)
  · exact .inl (by simp [same])

theorem changes_put_file {names : List String} (fits : files.root.Fits names) (content : ByteArray) :
    Changes Nowhere (· = names) files (files.put names (.file content)) := by
  refine ⟨rfl, fun other => ?_⟩
  rw [face?_put (Node.isLeaf_file content) fits]
  by_cases same : other = names
  · subst same
    exact .inr (.inr ⟨fits.bare, ⟨content, by simp [Node.face]⟩, rfl⟩)
  · exact .inl (by simp [same])

theorem changes_append (files : FileSystem) (names : List String) (text : String) :
    Changes Nowhere (· = names) files (files.append names text) := by
  unfold append
  split
  · rename_i content found
    exact changes_put_file (fits_of_file found) _
  · exact .refl files

/-- The places to which the steps of a path lead, from the first step to the last. -/
def Passed (files : FileSystem) (path : FilePath) (names : List String) : Prop :=
  ∃ steps, steps <+: stepsOf path.text ∧ names = reach (files.startOf path) steps

theorem startOf_congr {after : FileSystem} (working : after.working = files.working) {path other : FilePath}
    (absolute : path.isAbsolute = other.isAbsolute) : after.startOf path = files.startOf other := by
  simp [startOf, working, absolute]

theorem passed_congr {after : FileSystem} (working : after.working = files.working) : after.Passed = files.Passed := by
  funext path names
  simp only [Passed, startOf_congr working rfl]

theorem placeOf_congr {after : FileSystem} (working : after.working = files.working) :
    after.placeOf = files.placeOf := by
  funext path
  simp only [placeOf, startOf_congr working rfl]

theorem Passed.along {after : FileSystem} (working : after.working = files.working) {path front : FilePath}
    (steps : stepsOf front.text <+: stepsOf path.text) (absolute : front.isAbsolute = path.isAbsolute)
    {names : List String} (passed : after.Passed front names) : files.Passed path names := by
  obtain ⟨some, isFront, reached⟩ := passed
  exact ⟨some, isFront.trans steps, by rw [reached, startOf_congr working absolute]⟩

theorem Passed.ofParent {after : FileSystem} (working : after.working = files.working) {path parent : FilePath}
    (isParent : path.parent? = some parent) {names : List String} (passed : after.Passed parent names) :
    files.Passed path names := by
  obtain ⟨steps, absolute⟩ := FilePath.steps_parent isParent
  exact passed.along working (steps.trans (List.dropLast_prefix _)) absolute

theorem reach_names {names : List String} (here : List String) (areNames : ∀ name ∈ names, IsName name) :
    reach here names = here ++ names := by
  induction names generalizing here with
  | nil => simp [reach]
  | cons name others ih =>
      have isName := areNames name (by simp)
      have down : advance here name = here ++ [name] := by simp [advance, isName.ne_current, isName.ne_parent]
      have rest := ih (advance here name) fun other member => areNames other (by simp [member])
      unfold reach at rest ⊢
      rw [List.foldl_cons, rest, down]
      simp

theorem placeOf_below_steps (files : FileSystem) (path : FilePath) {steps : List String}
    (areSteps : ∀ step ∈ steps, IsStep step) : files.placeOf (path.below steps) = reach (files.placeOf path) steps := by
  unfold placeOf
  rw [FilePath.steps_below path areSteps, reach_append, startOf_congr rfl (FilePath.isAbsolute_below path areSteps)]

theorem placeOf_below (files : FileSystem) (path : FilePath) {names : List String}
    (areNames : ∀ name ∈ names, IsName name) : files.placeOf (path.below names) = files.placeOf path ++ names := by
  rw [placeOf_below_steps files path (areSteps_of_areNames areNames), reach_names _ areNames]

theorem makeDirectory_changes (linkFree : files.LinkFree) {path : FilePath} {after : FileSystem}
    (made : files.makeDirectory path = .ok after) : Changes (files.Passed path) Nowhere files after := by
  unfold makeDirectory at made
  split at made
  · contradiction
  · contradiction
  · rename_i names resolved
    cases made
    obtain ⟨_, leads, free, _, parent⟩ := endsAt_of_resolve linkFree resolved
    refine (changes_put_directory ⟨fun _ => parent, .inl free⟩ free).mono ?_ fun _ never => never
    rintro _ rfl
    exact ⟨_, List.prefix_refl _, leads.eq_reach⟩

/-- Making a directory makes no other directories than those that lead to it, whether it succeeds or fails. -/
theorem makeDirectoriesWithin_changes (depth : Nat) (path : FilePath) (linkFree : files.LinkFree) :
    Changes (files.Passed path) Nowhere files (makeDirectoriesWithin depth path files).1 := by
  induction depth generalizing path with
  | zero => exact .refl files
  | succ depth ih =>
      unfold makeDirectoriesWithin
      split
      · exact .refl files
      · split
        · rename_i made isMade
          exact makeDirectory_changes linkFree isMade
        · split
          · exact .refl files
          · rename_i parent isParent
            have parents := (ih parent).mono (fun _ passed => passed.ofParent rfl isParent) fun _ never => never
            split
            · rename_i made reason failed
              rw [failed] at parents
              exact parents
            · rename_i made isMade
              rw [isMade] at parents
              split
              · rename_i last isLast
                have step := makeDirectory_changes (parents.linkFree linkFree) isLast
                rw [passed_congr parents.working] at step
                exact parents.trans step
              · exact parents
        · exact .refl files

/-- A path leads to a regular file with the given content. -/
structure Holds (files : FileSystem) (path : FilePath) (content : ByteArray) : Prop where
  admissible : Admissible path
  leads : files.Leads (files.startOf path) (stepsOf path.text) (files.placeOf path)
  face : files.face? (files.placeOf path) = some (.file content)

theorem get?_of_face?_file {names : List String} {content : ByteArray}
    (isFile : files.face? names = some (.file content)) : files.get? names = some (.file content) :=
  Node.get?_of_face?_file isFile

theorem Holds.readOctets {path : FilePath} {content : ByteArray} (holds : files.Holds path content)
    (linkFree : files.LinkFree) (noSlash : asksForDirectory path.text = false) :
    files.readOctets path = .ok content := by
  have resolved := resolve_of_leads linkFree .content holds.admissible noSlash holds.leads
    (get?_of_face?_file holds.face)
  simp only [FileSystem.readOctets, resolved]

theorem Holds.after {made written : List String → Prop} {after : FileSystem} {path : FilePath} {content : ByteArray}
    (holds : files.Holds path content) (changes : Changes made written files after)
    (unwritten : ¬ written (files.placeOf path)) : after.Holds path content := by
  have start : after.startOf path = files.startOf path := startOf_congr changes.working rfl
  have place : after.placeOf path = files.placeOf path := congrFun (placeOf_congr changes.working) path
  refine ⟨holds.admissible, ?_, ?_⟩
  · rw [start, place]
    exact holds.leads.mono fun _ isDirectory => changes.directory isDirectory
  · rw [place]
    exact (changes.file_iff unwritten content).mpr holds.face

/-- Writing a file changes no other, and the path then leads to what was written. -/
theorem write_changes (linkFree : files.LinkFree) {path : FilePath} {text : String} {after : FileSystem}
    (wrote : files.write path text = .ok after) :
    Changes Nowhere (· = files.placeOf path) files after ∧ after.Holds path text.toUTF8 := by
  have stored : ∀ names, Admissible path → files.Leads (files.startOf path) (stepsOf path.text) names →
      files.root.Fits names → after = files.put names (.file text.toUTF8) →
      Changes Nowhere (· = files.placeOf path) files after ∧ after.Holds path text.toUTF8 := by
    rintro names admissible leads fits rfl
    have place : files.placeOf path = names := leads.eq_reach.symm
    have changes := changes_put_file fits text.toUTF8
    refine ⟨place ▸ changes, admissible, ?_, ?_⟩
    · exact place.symm ▸ leads.mono fun _ isDirectory => changes.directory isDirectory
    · have face := face?_put (Node.isLeaf_file text.toUTF8) fits names
      rw [if_pos rfl] at face
      exact place.symm ▸ face
  unfold write target at wrote
  cases resolved : files.resolve .creation path with
  | error reason => simp [resolved] at wrote
  | ok place =>
      obtain ⟨admissible, ends⟩ := endsAt_of_resolve linkFree resolved
      cases place with
      | free names =>
          obtain ⟨leads, free, _, parent⟩ := ends
          exact stored names admissible leads ⟨fun _ => parent, .inl free⟩ (by simpa [resolved] using wrote.symm)
      | taken names node =>
          obtain ⟨leads, found⟩ := ends
          cases node with
          | file content =>
              exact stored names admissible leads (fits_of_file found) (by simpa [resolved] using wrote.symm)
          | link target => simp [resolved] at wrote
          | directory entries => simp [resolved] at wrote

end Companion.FileSystem
