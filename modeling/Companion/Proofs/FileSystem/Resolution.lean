import Companion.Proofs.FileSystem.Face

/-!
Resolving paths in a tree without symbolic links. There a path leads to the place that its steps spell, as long as all
that it passes through are directories; which places it passes depends on the faces of the tree only, so what could be
resolved once is resolved alike when more directories and files have come.
-/

set_option autoImplicit false

namespace Companion.FileSystem

def advance (here : List String) (step : String) : List String :=
  if step = "." then here else if step = ".." then here.dropLast else here ++ [step]

def reach (here steps : List String) : List String :=
  steps.foldl advance here

def placeOf (files : FileSystem) (path : FilePath) : List String :=
  reach (files.startOf path) (stepsOf path.text)

/-- Whether a step can be an entry of a directory, as far as its length goes. -/
def IsShort (step : String) : Prop :=
  step = "." ∨ step = ".." ∨ step.utf8ByteSize ≤ longestName

theorem reach_append (here steps others : List String) : reach here (steps ++ others) = reach (reach here steps) others := by
  simp [reach]

/-- Steps lead from one place to another through directories. -/
inductive Leads (files : FileSystem) : List String → List String → List String → Prop
  | arrived (here : List String) : Leads files here [] here
  | through {here steps place : List String} {step : String} (isDirectory : files.face? here = some .directory)
      (isShort : IsShort step) (rest : Leads files (advance here step) steps place) :
      Leads files here (step :: steps) place

theorem Leads.eq_reach {files : FileSystem} {here steps place : List String} (leads : files.Leads here steps place) :
    place = reach here steps := by
  induction leads with
  | arrived here => rfl
  | through _ _ _ ih => simpa [reach] using ih

theorem Leads.mono {files after : FileSystem} {here steps place : List String}
    (kept : ∀ names, files.face? names = some .directory → after.face? names = some .directory)
    (leads : files.Leads here steps place) : after.Leads here steps place := by
  induction leads with
  | arrived here => exact .arrived here
  | through isDirectory isShort _ ih => exact .through (kept _ isDirectory) isShort ih

variable {files : FileSystem}

theorem exists_directory_of_face? {names : List String} (isDirectory : files.face? names = some .directory) :
    ∃ entries, files.get? names = some (.directory entries) :=
  Node.exists_directory_of_face? isDirectory

theorem get?_append_singleton {here : List String} {entries : List (String × Node)}
    (found : files.get? here = some (.directory entries)) (name : String) :
    files.get? (here ++ [name]) = Node.entry? name entries := by
  unfold get? at *
  rw [Node.get?_append, found, Option.bind_some, Node.get?_cons]
  cases Node.entry? name entries <;> simp

/-- What a walk ends at, in a tree without links: what the steps lead to, or a free name in a directory. -/
def EndsAt (files : FileSystem) (here steps : List String) : Passage → Prop
  | .arrived (.taken names node) => files.Leads here steps names ∧ files.get? names = some node
  | .arrived (.free names) =>
      files.Leads here steps names ∧ files.face? names = none ∧ names ≠ [] ∧
        files.face? names.dropLast = some .directory
  | .redirected _ _ _ => False

theorem EndsAt.through {here steps : List String} {step : String} {passage : Passage}
    (isDirectory : files.face? here = some .directory) (isShort : IsShort step)
    (rest : files.EndsAt (advance here step) steps passage) : files.EndsAt here (step :: steps) passage := by
  match passage, rest with
  | .arrived (.taken _ _), ⟨leads, found⟩ => exact ⟨.through isDirectory isShort leads, found⟩
  | .arrived (.free _), ⟨leads, free⟩ => exact ⟨.through isDirectory isShort leads, free⟩

/-- A step of a walk in a tree without links: the walk goes on where the step leads, or ends at a free name. -/
theorem descend_cons (linkFree : files.LinkFree) {purpose : Purpose} {asksDirectory : Bool} {here steps : List String}
    {step : String} {passage : Passage}
    (walked : files.descend purpose asksDirectory here (step :: steps) = .ok passage) :
    files.face? here = some .directory ∧ IsShort step ∧
      (files.descend purpose asksDirectory (advance here step) steps = .ok passage ∨
        (steps = [] ∧ advance here step = here ++ [step] ∧ files.face? (here ++ [step]) = none ∧
          passage = .arrived (.free (here ++ [step])))) := by
  simp only [descend] at walked
  split at walked
  · rename_i entries found
    refine ⟨by rw [face?_eq_map, found]; rfl, ?_⟩
    split at walked
    · rename_i isCurrent
      exact ⟨.inl isCurrent, .inl (by simpa [advance, isCurrent] using walked)⟩
    rename_i notCurrent
    split at walked
    · rename_i isParent
      exact ⟨.inr (.inl isParent), .inl (by simpa [advance, isParent] using walked)⟩
    rename_i notParent
    split at walked
    · contradiction
    split at walked
    · contradiction
    rename_i notLong
    refine ⟨.inr (.inr (Nat.le_of_not_lt notLong)), ?_⟩
    have ahead : advance here step = here ++ [step] := by simp [advance, notCurrent, notParent]
    have entry := get?_append_singleton found step
    split at walked
    · rename_i absent
      split at walked
      · rename_i last
        cases walked
        exact .inr ⟨by simpa using last, ahead, by simp [face?_eq_map, entry, absent], rfl⟩
      · contradiction
    · rename_i target isLink
      exact absurd (by simp [face?_eq_map, entry, isLink, Node.face]) (linkFree (here ++ [step]) target)
    · exact .inl (ahead ▸ walked)
  · contradiction
  · contradiction

/-- In a tree without links a walk ends where its steps lead. -/
theorem endsAt_of_descend (linkFree : files.LinkFree) {purpose : Purpose} {asksDirectory : Bool}
    {here steps : List String} {passage : Passage}
    (walked : files.descend purpose asksDirectory here steps = .ok passage) : files.EndsAt here steps passage := by
  induction steps generalizing here with
  | nil =>
      simp only [descend] at walked
      split at walked
      · rename_i node found
        simp only [arrive] at walked
        split at walked
        · contradiction
        · cases walked
          exact ⟨.arrived here, found⟩
      · contradiction
  | cons step steps ih =>
      obtain ⟨isDirectory, isShort, further | ⟨rfl, ahead, free, rfl⟩⟩ := descend_cons linkFree walked
      · exact .through isDirectory isShort (ih further)
      · exact ⟨.through isDirectory isShort (by rw [ahead]; exact .arrived _), free, by simp, by simpa using isDirectory⟩

theorem Leads.step_found {here steps place : List String} {step : String} {node : Node}
    (leads : files.Leads here (step :: steps) place) (found : files.get? place = some node) :
    ∃ next, files.get? (advance here step) = some next := by
  cases leads with
  | through _ _ rest =>
      cases rest with
      | arrived => exact ⟨node, found⟩
      | through isDirectory _ _ =>
          obtain ⟨entries, isThere⟩ := exists_directory_of_face? isDirectory
          exact ⟨_, isThere⟩

/-- In a tree without links a walk that does not ask for a directory arrives where its steps lead. -/
theorem descend_of_leads (linkFree : files.LinkFree) (purpose : Purpose) {here steps place : List String} {node : Node}
    (leads : files.Leads here steps place) (found : files.get? place = some node) :
    files.descend purpose false here steps = .ok (.arrived (.taken place node)) := by
  induction leads with
  | arrived here => simp [descend, found, arrive]
  | @through here steps place step isDirectory isShort rest ih =>
      obtain ⟨next, isNext⟩ := (Leads.through isDirectory isShort rest).step_found found
      obtain ⟨entries, isHere⟩ := exists_directory_of_face? isDirectory
      have walk := ih found
      unfold descend
      rw [isHere]
      by_cases isCurrent : step = "."
      · simpa [isCurrent, advance] using walk
      · by_cases isParent : step = ".."
        · simpa [isParent, advance] using walk
        · have notLong : ¬ longestName < step.utf8ByteSize := by
            obtain same | same | short := isShort
            · exact absurd same isCurrent
            · exact absurd same isParent
            · exact Nat.not_lt.mpr short
          have ahead : advance here step = here ++ [step] := by simp [advance, isCurrent, isParent]
          rw [ahead] at isNext walk
          have entry := get?_append_singleton isHere step
          rw [isNext] at entry
          simp only [isCurrent, isParent, notLong, if_false, Bool.false_eq_true, and_false, false_and, ← entry]
          cases next with
          | file content => exact walk
          | directory entries => exact walk
          | link target =>
              exact absurd (by simp [face?_eq_map, isNext, Node.face]) (linkFree (here ++ [step]) target)

structure Admissible (path : FilePath) : Prop where
  null : '\x00' ∉ path.text.toList
  nonempty : path.text ≠ ""
  short : path.text.utf8ByteSize ≤ longestPath

/-- In a tree without links a path is resolved in one passage. -/
theorem descend_of_resolve (linkFree : files.LinkFree) {purpose : Purpose} {path : FilePath} {place : Place}
    (resolved : files.resolve purpose path = .ok place) :
    Admissible path ∧ files.descend purpose (asksForDirectory path.text) (files.startOf path) (stepsOf path.text) =
      .ok (.arrived place) := by
  unfold resolve at resolved
  split at resolved
  · contradiction
  · rename_i noNull
    split at resolved
    · contradiction
    · rename_i notEmpty
      split at resolved
      · contradiction
      · rename_i notLong
        refine ⟨⟨by simpa using noNull, by simpa using notEmpty, Nat.le_of_not_lt notLong⟩, ?_⟩
        unfold follow at resolved
        split at resolved
        · contradiction
        · rename_i reached walked
          cases resolved
          exact walked
        · rename_i directory target rest walked
          exact (endsAt_of_descend linkFree walked).elim

/-- In a tree without links a path leads where its steps lead. -/
theorem endsAt_of_resolve (linkFree : files.LinkFree) {purpose : Purpose} {path : FilePath} {place : Place}
    (resolved : files.resolve purpose path = .ok place) :
    Admissible path ∧ files.EndsAt (files.startOf path) (stepsOf path.text) (.arrived place) := by
  obtain ⟨admissible, walked⟩ := descend_of_resolve linkFree resolved
  exact ⟨admissible, endsAt_of_descend linkFree walked⟩

/-- In a tree without links a path that leads to something is resolved, unless it ends in a slash. -/
theorem resolve_of_leads (linkFree : files.LinkFree) (purpose : Purpose) {path : FilePath} (admissible : Admissible path)
    (noSlash : asksForDirectory path.text = false) {place : List String} {node : Node}
    (leads : files.Leads (files.startOf path) (stepsOf path.text) place) (found : files.get? place = some node) :
    files.resolve purpose path = .ok (.taken place node) := by
  have walk := descend_of_leads linkFree purpose leads found
  have noNull : path.text.toList.contains '\x00' = false := by simpa using admissible.null
  have notEmpty : path.text.isEmpty = false := by simpa using admissible.nonempty
  unfold resolve
  simp only [noNull, notEmpty, Nat.not_lt.mpr admissible.short, Bool.false_eq_true, if_false, noSlash]
  unfold follow
  simp only [walk]

end Companion.FileSystem
