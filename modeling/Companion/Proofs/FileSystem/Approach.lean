import Companion.Proofs.FilePath.Lead
import Companion.Proofs.FileSystem.Change
import Companion.Proofs.FileSystem.Plot
import Companion.Proofs.FileSystem.Refusal

/-!
Paths to a free place. What operations find and do below the place does not depend on the way that leads there, and so it
is the same in the whole tree, whose paths may lead to the place through symbolic links, and in the tree that has nothing
but the place, where a lead of as many slashes stands in front.
-/

set_option autoImplicit false

namespace Companion.FileSystem

/-- A place of the tree apart, seen from the whole tree. -/
def Place.below (directory : List String) : Place → Place
  | .taken names node => .taken (directory ++ names) node
  | .free names => .free (directory ++ names)

/-- A passage over the tree apart, seen from the whole tree. -/
def Passage.below (directory : List String) : Passage → Passage
  | .arrived place => .arrived (place.below directory)
  | .redirected names target rest => .redirected (directory ++ names) target rest

namespace Plot

variable {plot : Plot} {sub : Option Node} {purpose : Purpose} {asksDirectory : Bool} {steps : List String}

theorem map_arrive (names : List String) (node : Node) :
    (arrive purpose asksDirectory names node).map (Passage.below plot.directory) =
      arrive purpose asksDirectory (plot.directory ++ names) node := by
  unfold arrive
  split <;> rfl

/-- Below the place a walk goes the same way in both trees. -/
theorem descend_grown (sub : Option Node) (inner : List String) (forward : ".." ∉ steps) :
    (plot.grown sub).descend purpose asksDirectory (plot.directory ++ plot.name :: inner) steps =
      ((plot.apart sub).descend purpose asksDirectory (plot.name :: inner) steps).map (Passage.below plot.directory) := by
  induction steps generalizing inner with
  | nil =>
      unfold descend
      rw [get?_grown]
      cases (plot.apart sub).get? (plot.name :: inner) with
      | none => rfl
      | some node => exact (map_arrive _ node).symm
  | cons step steps ih =>
      obtain ⟨notBack, forward⟩ := not_or.mp (mt List.mem_cons.mpr forward)
      unfold descend
      rw [get?_grown]
      cases (plot.apart sub).get? (plot.name :: inner) with
      | none => rfl
      | some node =>
          cases node with
          | file content => rfl
          | link target => rfl
          | directory entries =>
              dsimp only
              have ahead := ih (inner ++ [step]) forward
              have place : plot.directory ++ plot.name :: (inner ++ [step]) =
                  plot.directory ++ plot.name :: inner ++ [step] := by simp
              rw [place, ← List.cons_append] at ahead
              by_cases isCurrent : step = "."
              · rw [if_pos isCurrent, if_pos isCurrent]
                exact ih inner forward
              rw [if_neg isCurrent, if_neg isCurrent, if_neg (Ne.symm notBack), if_neg (Ne.symm notBack)]
              split
              · rfl
              split
              · rfl
              cases Node.entry? step entries with
              | none => dsimp only; split <;> simp [Except.map, Passage.below, Place.below]
              | some child =>
                  cases child with
                  | file content => exact ahead
                  | directory inside => exact ahead
                  | link target => dsimp only; split <;> simp [Except.map, Passage.below, Place.below]

theorem descend_plot (sub : Option Node) (notCurrent : plot.name ≠ ".") (notParent : plot.name ≠ "..") (forward : ".." ∉ steps) :
    (plot.grown sub).descend purpose asksDirectory plot.directory (plot.name :: steps) =
      ((plot.apart sub).descend purpose asksDirectory [] (plot.name :: steps)).map (Passage.below plot.directory) := by
  obtain ⟨entries, isDirectory, entered⟩ := plot.exists_entries_grown sub
  obtain ⟨alone, isRoot, enteredApart⟩ := plot.exists_entries_apart sub
  unfold descend
  rw [isDirectory, isRoot]
  dsimp only
  rw [if_neg notCurrent, if_neg notCurrent, if_neg notParent, if_neg notParent, entered, enteredApart]
  split
  · rfl
  split
  · rfl
  have ahead : (plot.grown sub).descend purpose asksDirectory (plot.directory ++ [plot.name]) steps =
      ((plot.apart sub).descend purpose asksDirectory [plot.name] steps).map (Passage.below plot.directory) :=
    descend_grown sub [] forward
  cases sub with
  | none => dsimp only; split <;> simp [Except.map, Passage.below, Place.below]
  | some child =>
      cases child with
      | file content => exact ahead
      | directory inside => exact ahead
      | link target => dsimp only; split <;> simp [Except.map, Passage.below, Place.below]

/-- Where there are no links, no number of links makes a difference. -/
theorem follow_plot (linkFree : (plot.apart sub).LinkFree) (notCurrent : plot.name ≠ ".") (notParent : plot.name ≠ "..")
    (forward : ".." ∉ steps) (links others : Nat) :
    (plot.grown sub).follow purpose links asksDirectory plot.directory (plot.name :: steps) =
      ((plot.apart sub).follow purpose others asksDirectory [] (plot.name :: steps)).map (Place.below plot.directory) := by
  unfold follow
  rw [descend_plot sub notCurrent notParent forward]
  cases walked : (plot.apart sub).descend purpose asksDirectory [] (plot.name :: steps) with
  | error reason => rfl
  | ok passage =>
      cases passage with
      | arrived place => rfl
      | redirected directory target rest => exact (endsAt_of_descend linkFree walked).elim

end Plot

/-- Steps that do not lead back lead further, each step that does not stay by its name. -/
theorem reach_forward (here : List String) {steps : List String} (forward : ".." ∉ steps) :
    reach here steps = here ++ steps.filter (· ≠ ".") := by
  induction steps generalizing here with
  | nil => exact (List.append_nil here).symm
  | cons step steps ih =>
      obtain ⟨notBack, forward⟩ := not_or.mp (mt List.mem_cons.mpr forward)
      have whole : reach here (step :: steps) = reach (advance here step) steps := rfl
      rw [whole, ih _ forward]
      by_cases isCurrent : step = "."
      · simp [advance, isCurrent]
      · rw [advance_name isCurrent (Ne.symm notBack), List.filter_cons_of_pos (by simpa using isCurrent)]
        simp

/-- A text that leads to the directory of a place, and as many slashes in its stead. -/
structure Approach (plot : Plot) (lead slashes : String) : Prop where
  isLead : FilePath.IsLead lead
  slashesLead : FilePath.IsLead slashes
  size : slashes.utf8ByteSize = lead.utf8ByteSize
  null : '\x00' ∉ lead.toList
  slashesNull : '\x00' ∉ slashes.toList
  noSteps : stepsOf slashes = []
  isEntry : IsEntry plot.name
  enters : ∃ left, plot.files.Enters 40 (plot.files.startOf ⟨lead⟩) (stepsOf lead) left plot.directory

/-- Whether a text begins with the name of a place, and does not lead back from it. -/
def Plot.Behind (plot : Plot) (text : String) : Prop :=
  ∃ pieces, (FilePath.mk text).pieces = plot.name :: pieces ∧ ".." ∉ pieces

namespace Approach

variable {plot : Plot} {lead slashes text : String} {sub : Option Node} {purpose : Purpose}

theorem isIdle_name (approach : Approach plot lead slashes) : FilePath.isIdle plot.name = false := by
  simp [FilePath.isIdle, approach.isEntry.ne_empty, approach.isEntry.ne_current]

section Behind

variable (approach : Approach plot lead slashes) (behind : plot.Behind text)

include approach behind

theorem exists_steps : ∃ rest, stepsOf text = plot.name :: rest ∧ ".." ∉ rest := by
  obtain ⟨pieces, whole, forward⟩ := behind
  refine ⟨pieces.filter (· ≠ ""), ?_, fun back => forward (List.mem_filter.mp back).1⟩
  rw [stepsOf, whole, List.filter_cons_of_pos (by simpa using approach.isEntry.ne_empty)]

theorem nonempty : text ≠ "" := by
  rintro rfl
  obtain ⟨rest, steps, -⟩ := approach.exists_steps behind
  simp at steps

theorem relative : (FilePath.mk text).isAbsolute = false := by
  obtain ⟨pieces, whole, -⟩ := behind
  rw [Bool.eq_false_iff, ne_eq, FilePath.isAbsolute_iff, whole]
  rintro ⟨_, -, same⟩
  exact approach.isEntry.ne_empty (List.cons.inj same).1

/-- A path to the place, or behind it, leads to the same in both trees. -/
theorem resolve (allowed : ¬ (asksForDirectory text = true ∧ purpose = .creation)) (linkFree : (plot.apart sub).LinkFree) :
    (plot.grown sub).resolve purpose ⟨lead ++ text⟩ =
      ((plot.apart sub).resolve purpose ⟨slashes ++ text⟩).map (Place.below plot.directory) := by
  obtain ⟨rest, steps, forward⟩ := approach.exists_steps behind
  have nonempty := approach.nonempty behind
  have someText : ∀ front : String, (front ++ text).isEmpty = false := fun front => by
    rw [Bool.eq_false_iff]
    simp [nonempty]
  have sameNull : (lead ++ text).toList.contains '\x00' = (slashes ++ text).toList.contains '\x00' := by
    rw [Bool.eq_iff_iff]
    simp [approach.null, approach.slashesNull]
  have sameSize : (lead ++ text).utf8ByteSize = (slashes ++ text).utf8ByteSize := by
    rw [String.utf8ByteSize_append, String.utf8ByteSize_append, approach.size]
  have start : (plot.grown sub).startOf ⟨lead ++ text⟩ = plot.files.startOf ⟨lead⟩ :=
    startOf_congr (Plot.working_grown sub) (approach.isLead.isAbsolute (approach.relative behind))
  have startApart : (plot.apart sub).startOf ⟨slashes ++ text⟩ = [] := by
    simp [startOf]
  unfold FileSystem.resolve
  simp only [someText, sameNull, sameSize, start, startApart]
  split
  · rfl
  split
  · contradiction
  split
  · rfl
  obtain ⟨left, enters⟩ := approach.enters
  rw [approach.isLead.steps, approach.slashesLead.steps, approach.noSteps, FilePath.asksForDirectory_lead _ nonempty,
    FilePath.asksForDirectory_lead _ nonempty, steps, List.nil_append,
    (enters.mono (Plot.extends_grown sub)).follow allowed (by simp)]
  exact Plot.follow_plot linkFree approach.isEntry.ne_current approach.isEntry.ne_parent forward left 40

/-- In the tree apart, such a path leads below the place. -/
theorem exists_inner (linkFree : (plot.apart sub).LinkFree) {place : Place}
    (resolved : (plot.apart sub).resolve purpose ⟨slashes ++ text⟩ = .ok place) :
    ∃ inner, (∃ node, place = .taken (plot.name :: inner) node ∧ sub ≠ none) ∨
      (place = .free (plot.name :: inner) ∧ (inner = [] ∨ sub ≠ none)) := by
  obtain ⟨rest, steps, forward⟩ := approach.exists_steps behind
  have startApart : (plot.apart sub).startOf ⟨slashes ++ text⟩ = [] := by simp [startOf]
  obtain ⟨-, ends⟩ := endsAt_of_resolve linkFree resolved
  rw [startApart, approach.slashesLead.steps, approach.noSteps, steps, List.nil_append] at ends
  obtain ⟨inner, reached⟩ : ∃ inner, reach [plot.name] rest = [plot.name] ++ inner := ⟨_, reach_forward _ forward⟩
  have place_eq : ∀ {names}, (plot.apart sub).Leads [] (plot.name :: rest) names → names = plot.name :: inner := by
    intro names leads
    have first : advance [] plot.name = [plot.name] :=
      advance_name approach.isEntry.ne_current approach.isEntry.ne_parent []
    have whole : reach [] (plot.name :: rest) = reach (advance [] plot.name) rest := rfl
    rw [leads.eq_reach, whole, first, reached]
    rfl
  cases place with
  | taken names node =>
      obtain ⟨leads, found⟩ := ends
      obtain rfl := place_eq leads
      refine ⟨inner, .inl ⟨node, rfl, ?_⟩⟩
      rintro rfl
      contradiction
  | free names =>
      obtain ⟨leads, -, -, isDirectory⟩ := ends
      obtain rfl := place_eq leads
      refine ⟨inner, .inr ⟨rfl, ?_⟩⟩
      by_contra both
      obtain ⟨someInner, rfl⟩ : inner ≠ [] ∧ sub = none := by simpa [not_or] using both
      rw [List.dropLast_cons_of_ne_nil someInner] at isDirectory
      contradiction

end Behind

section Operations

variable (approach : Approach plot lead slashes) (behind : plot.Behind text) (linkFree : (plot.apart sub).LinkFree)

include approach behind linkFree

theorem isDirectory : (plot.grown sub).isDirectory ⟨lead ++ text⟩ = (plot.apart sub).isDirectory ⟨slashes ++ text⟩ := by
  unfold FileSystem.isDirectory
  rw [approach.resolve behind (by simp) linkFree]
  cases (plot.apart sub).resolve .content ⟨slashes ++ text⟩ with
  | error reason => rfl
  | ok place => cases place <;> rfl

/-- A directory is made in both trees, or in neither and for the same reason. -/
theorem makeDirectory_cases :
    (∃ reason, (plot.grown sub).makeDirectory ⟨lead ++ text⟩ = .error reason ∧
        (plot.apart sub).makeDirectory ⟨slashes ++ text⟩ = .error reason) ∨
      ∃ after, (plot.grown sub).makeDirectory ⟨lead ++ text⟩ = .ok (plot.grown (some after)) ∧
        (plot.apart sub).makeDirectory ⟨slashes ++ text⟩ = .ok (plot.apart (some after)) := by
  have same : (plot.grown sub).resolve .entry ⟨lead ++ text⟩ = _ := approach.resolve behind (by simp) linkFree
  unfold FileSystem.makeDirectory
  rw [same]
  cases resolved : (plot.apart sub).resolve .entry ⟨slashes ++ text⟩ with
  | error reason => exact .inl ⟨reason, rfl, rfl⟩
  | ok place =>
      cases place with
      | taken names node => exact .inl ⟨.alreadyExists, rfl, rfl⟩
      | free names =>
          obtain ⟨inner, ⟨_, never, -⟩ | ⟨here, ready⟩⟩ := approach.exists_inner behind linkFree resolved
          · cases never
          · cases here
            obtain ⟨after, grown, apart⟩ := plot.put_grown sub .emptyDirectory ready
            exact .inr ⟨after, congrArg Except.ok grown, congrArg Except.ok apart⟩

/-- A file is written in both trees, or in neither and for the same reason. -/
theorem write_cases (noSlash : asksForDirectory text = false) (content : String) :
    (∃ reason, (plot.grown sub).write ⟨lead ++ text⟩ content = .error reason ∧
        (plot.apart sub).write ⟨slashes ++ text⟩ content = .error reason) ∨
      ∃ after, (plot.grown sub).write ⟨lead ++ text⟩ content = .ok (plot.grown (some after)) ∧
        (plot.apart sub).write ⟨slashes ++ text⟩ content = .ok (plot.apart (some after)) := by
  have same : (plot.grown sub).resolve .creation ⟨lead ++ text⟩ = _ :=
    approach.resolve behind (by simp [noSlash]) linkFree
  unfold FileSystem.write FileSystem.target
  rw [same]
  cases resolved : (plot.apart sub).resolve .creation ⟨slashes ++ text⟩ with
  | error reason => exact .inl ⟨reason, rfl, rfl⟩
  | ok place =>
      obtain ⟨inner, ⟨node, here, some⟩ | ⟨here, ready⟩⟩ := approach.exists_inner behind linkFree resolved
      · cases here
        cases node with
        | file old =>
            obtain ⟨after, grown, apart⟩ := plot.put_grown sub (.file content.toUTF8) (.inr some)
            exact .inr ⟨after, congrArg Except.ok grown, congrArg Except.ok apart⟩
        | link target => exact .inl ⟨.isDirectory, rfl, rfl⟩
        | directory entries => exact .inl ⟨.isDirectory, rfl, rfl⟩
      · cases here
        obtain ⟨after, grown, apart⟩ := plot.put_grown sub (.file content.toUTF8) ready
        exact .inr ⟨after, congrArg Except.ok grown, congrArg Except.ok apart⟩

/-- Finishing a directory comes to the same in both trees. -/
theorem finish : ∃ after, ((plot.grown sub).finish ⟨lead ++ text⟩).1 = plot.grown after ∧
    ((plot.apart sub).finish ⟨slashes ++ text⟩).1 = plot.apart after ∧
    ((plot.grown sub).finish ⟨lead ++ text⟩).2 = ((plot.apart sub).finish ⟨slashes ++ text⟩).2 := by
  unfold FileSystem.finish
  obtain ⟨reason, grown, apart⟩ | ⟨after, grown, apart⟩ := approach.makeDirectory_cases behind linkFree
  · rw [grown, apart, approach.isDirectory behind linkFree]
    exact ⟨sub, rfl, rfl, rfl⟩
  · rw [grown, apart]
    exact ⟨some after, rfl, rfl, rfl⟩

theorem makeDirectory_ne_noEntry (single : stepsOf text = [plot.name]) :
    (plot.apart sub).makeDirectory ⟨slashes ++ text⟩ ≠ .error .noEntry := by
  have nonempty : slashes ++ text ≠ "" := by simp [approach.nonempty behind]
  have start : (plot.apart sub).startOf ⟨slashes ++ text⟩ = [] := by simp [startOf]
  have steps : stepsOf (slashes ++ text) = [] ++ plot.name :: [] := by
    rw [approach.slashesLead.steps, approach.noSteps, single, List.nil_append]
  cases flawed : flaw? ⟨slashes ++ text⟩ with
  | some cause =>
      obtain ⟨unresolved, known⟩ := resolve_of_flaw? (plot.apart sub) nonempty flawed .entry
      rw [makeDirectory_of_unresolved unresolved]
      simpa using known
  | none =>
      have admissible := admissible_of_flaw? nonempty flawed
      have isRoot : (plot.apart sub).face? [] = some .directory := by cases sub <;> rfl
      have paved : (plot.apart sub).Paved ((plot.apart sub).startOf ⟨slashes ++ text⟩) [] := start ▸ .nil isRoot
      by_cases whole : (plot.apart sub).Paved ((plot.apart sub).startOf ⟨slashes ++ text⟩) ([] ++ [plot.name])
      · rw [makeDirectory_of_paved admissible (steps ▸ whole)]
        simp
      · obtain ⟨notCurrent, notParent, fits, missing⟩ | barred := missing_or_barred linkFree paved whole
        · rw [makeDirectory_of_missing admissible steps paved notCurrent notParent fits missing]
          simp
        · rw [makeDirectory_of_barred admissible steps paved barred]
          simpa using barrier_ne_noEntry plot.name []

theorem makeDirectory_missing_iff : (plot.grown sub).makeDirectory ⟨lead ++ text⟩ = .error .noEntry ↔
    (plot.apart sub).makeDirectory ⟨slashes ++ text⟩ = .error .noEntry := by
  obtain ⟨reason, grown, apart⟩ | ⟨after, grown, apart⟩ := approach.makeDirectory_cases behind linkFree
  · rw [grown, apart]
  · simp [grown, apart]

/-- What is missing lies behind the place, and so does the parent of what cannot be made. -/
theorem parent_nonempty (trimmed : (FilePath.mk text).Trimmed) {parent : FilePath}
    (isParent : (FilePath.mk text).parent? = some parent)
    (missing : (plot.apart sub).makeDirectory ⟨slashes ++ text⟩ = .error .noEntry) : parent.text ≠ "" := by
  intro empty
  obtain ⟨rest, steps, -⟩ := approach.exists_steps behind
  obtain ⟨dots, last, stepsParent, stay⟩ := FilePath.steps_of_parent trimmed isParent
  rw [steps, empty, FilePath.steps_empty, List.nil_append] at stepsParent
  cases dots with
  | nil =>
      obtain rfl : rest = [] := (List.cons.inj stepsParent).2
      exact approach.makeDirectory_ne_noEntry behind linkFree steps missing
  | cons dot dots =>
      obtain rfl : plot.name = dot := (List.cons.inj stepsParent).1
      exact approach.isEntry.ne_current (stay plot.name List.mem_cons_self)

end Operations

/-- Directories that lead to the place and on are made alike in both trees. The induction goes from a path to its
parents; that of the place itself is there. -/
theorem makeDirectoriesWithin (approach : Approach plot lead slashes) {depth others : Nat} (behind : plot.Behind text)
    (linkFree : (plot.apart sub).LinkFree) (trimmed : (FilePath.mk text).Trimmed) (enough : moves ⟨text⟩ < depth)
    (enoughOthers : moves ⟨text⟩ < others) :
    ∃ after, (FileSystem.makeDirectoriesWithin depth ⟨lead ++ text⟩ (plot.grown sub)).1 = plot.grown after ∧
      (FileSystem.makeDirectoriesWithin others ⟨slashes ++ text⟩ (plot.apart sub)).1 = plot.apart after ∧
      (FileSystem.makeDirectoriesWithin depth ⟨lead ++ text⟩ (plot.grown sub)).2 =
        (FileSystem.makeDirectoriesWithin others ⟨slashes ++ text⟩ (plot.apart sub)).2 := by
  induction depth generalizing others text with
  | zero => exact absurd enough (Nat.not_lt_zero _)
  | succ depth ih =>
      obtain ⟨others, rfl⟩ : ∃ fewer, others = fewer + 1 := ⟨others - 1, by omega⟩
      have nonempty := approach.nonempty behind
      have grownNonempty : (FilePath.mk (lead ++ text)).text ≠ "" := by simp [nonempty]
      have apartNonempty : (FilePath.mk (slashes ++ text)).text ≠ "" := by simp [nonempty]
      by_cases missing : (plot.apart sub).makeDirectory ⟨slashes ++ text⟩ = .error .noEntry
      · obtain ⟨rest, steps, forward⟩ := approach.exists_steps behind
        obtain ⟨pieces, whole, piecesForward⟩ := id behind
        have counts : FilePath.isIdle plot.name = false := approach.isIdle_name
        have grownMissing := (approach.makeDirectory_missing_iff behind linkFree).mpr missing
        cases isParent : (FilePath.mk text).parent? with
        | none =>
            have stays := FilePath.stay_of_no_parent isParent plot.name (by simp [steps])
            exact absurd stays approach.isEntry.ne_current
        | some parent =>
            have parentNonempty := approach.parent_nonempty behind linkFree trimmed isParent missing
            obtain ⟨grownParent, kept, isFront, parentPieces⟩ :=
              FilePath.parent?_lead approach.isLead whole counts isParent parentNonempty
            obtain ⟨apartParent, -⟩ := FilePath.parent?_lead approach.slashesLead whole counts isParent parentNonempty
            have isStep : plot.name ∈ stepsOf (FilePath.mk text).text := by simp [steps]
            have fewer := moves_of_parent trimmed isParent isStep approach.isEntry.ne_current
            have parentBehind : plot.Behind parent.text := ⟨kept, parentPieces, fun back => piecesForward (isFront.subset back)⟩
            have enoughLeft : moves parent < others := by omega
            obtain ⟨after, grown, apart, same⟩ := ih parentBehind (FilePath.trimmed_parent isParent)
              (show moves parent < depth by omega) enoughLeft
            rw [makeDirectoriesWithin_parent depth grownNonempty grownMissing grownParent,
              makeDirectoriesWithin_parent others apartNonempty missing apartParent]
            have linkFreeAfter := (makeDirectoriesWithin_changes others ⟨slashes ++ parent.text⟩ linkFree).linkFree linkFree
            generalize FileSystem.makeDirectoriesWithin depth ⟨lead ++ parent.text⟩ (plot.grown sub) = madeGrown at grown same ⊢
            generalize FileSystem.makeDirectoriesWithin others ⟨slashes ++ parent.text⟩ (plot.apart sub) = madeApart
              at apart same linkFreeAfter ⊢
            obtain ⟨grownMade, outcome⟩ := madeGrown
            obtain ⟨apartMade, outcomeApart⟩ := madeApart
            obtain rfl : grownMade = plot.grown after := grown
            obtain rfl : apartMade = plot.apart after := apart
            obtain rfl : outcome = outcomeApart := same
            cases outcome with
            | error reason => exact ⟨after, rfl, rfl, rfl⟩
            | ok done => exact approach.finish behind linkFreeAfter
      · have grownReady := mt (approach.makeDirectory_missing_iff behind linkFree).mp missing
        rw [makeDirectoriesWithin_finish depth grownNonempty grownReady,
          makeDirectoriesWithin_finish others apartNonempty missing]
        exact approach.finish behind linkFree

/-- Making all directories of a path, with as many parents as it has. -/
theorem makeDirectories (approach : Approach plot lead slashes) (behind : plot.Behind text)
    (linkFree : (plot.apart sub).LinkFree) (trimmed : (FilePath.mk text).Trimmed) :
    ∃ after, ((plot.grown sub).makeDirectories ⟨lead ++ text⟩).1 = plot.grown after ∧
      ((plot.apart sub).makeDirectories ⟨slashes ++ text⟩).1 = plot.apart after ∧
      ((plot.grown sub).makeDirectories ⟨lead ++ text⟩).2 = ((plot.apart sub).makeDirectories ⟨slashes ++ text⟩).2 := by
  have enough : ∀ {front}, FilePath.IsLead front → moves ⟨text⟩ < (FilePath.mk (front ++ text)).components.length + 1 := by
    intro front isLead
    have bound := moves_le_components ⟨front ++ text⟩
    have steps := isLead.steps text
    simp only [moves, steps, List.filter_append, List.length_append] at bound ⊢
    omega
  exact approach.makeDirectoriesWithin behind linkFree trimmed (enough approach.isLead) (enough approach.slashesLead)

end Approach

end Companion.FileSystem
