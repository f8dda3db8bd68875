import Companion.Proofs.FileSystem.Clearing

set_option autoImplicit false

namespace Companion.FileSystem

variable {files after : FileSystem} {here : List String} {purpose : Purpose} {asksDirectory : Bool}

/-- Where directories lead, a walk goes on at their end. -/
theorem descend_paved (purpose : Purpose) (asksDirectory : Bool)
    (allowed : ¬ (asksDirectory = true ∧ purpose = .creation)) {front : List String}
    (paved : files.Paved here front) (others : List String) :
    files.descend purpose asksDirectory here (front ++ others) =
      files.descend purpose asksDirectory (reach here front) others := by
  induction front generalizing here with
  | nil => rfl
  | cons step front ih =>
      have further := ih paved.tail
      have next := paved.tail.start
      obtain ⟨entries, found⟩ := exists_directory_of_face? paved.start
      rw [List.cons_append, descend, found]
      by_cases isCurrent : step = "."
      · simpa [isCurrent, advance, reach] using further
      · by_cases isParent : step = ".."
        · simpa [isParent, advance, reach] using further
        · have fits : ¬ longestName < step.utf8ByteSize := by
            obtain same | same | fits := paved.isShort
            · exact absurd same isCurrent
            · exact absurd same isParent
            · exact Nat.not_lt.mpr fits
          rw [advance_name isCurrent isParent] at next further
          obtain ⟨inner, entered⟩ := exists_directory_of_face? next
          rw [get?_append_singleton found] at entered
          have reached : reach here (step :: front) = reach (here ++ [step]) front := by
            simp [reach, advance_name isCurrent isParent]
          have notAsked : ¬ ((front ++ others).isEmpty = true ∧ asksDirectory = true ∧ purpose = .creation) :=
            fun asks => allowed asks.2
          simp only [isCurrent, isParent, fits, if_false, notAsked, entered]
          rw [further, reached]

/-- A walk that is at its end at a directory arrives there. -/
theorem descend_nil {entries : List (String × Node)} (found : files.get? here = some (.directory entries)) :
    files.descend purpose asksDirectory here [] = .ok (.arrived (.taken here (.directory entries))) := by
  simp [descend, found, arrive, Node.isDirectory]

section Stop

variable {step : String} {rest : List String}

/-- How a walk ends that comes to a name in a directory. -/
theorem descend_name (allowed : ¬ (asksDirectory = true ∧ purpose = .creation))
    {entries : List (String × Node)} (found : files.get? here = some (.directory entries)) (notCurrent : step ≠ ".")
    (notParent : step ≠ "..") :
    files.descend purpose asksDirectory here (step :: rest) =
      if longestName < step.utf8ByteSize then .error .nameTooLong
      else match Node.entry? step entries with
        | none => if rest.isEmpty then .ok (.arrived (.free (here ++ [step]))) else .error .noEntry
        | some (.link target) =>
            if rest.isEmpty ∧ purpose = .entry then .ok (.arrived (.taken (here ++ [step]) (.link target)))
            else .ok (.redirected here target rest)
        | some _ => files.descend purpose asksDirectory (here ++ [step]) rest := by
  have notAsked : ¬ (rest.isEmpty = true ∧ asksDirectory = true ∧ purpose = .creation) := fun ⟨_, asked⟩ => allowed asked
  rw [descend, found]
  exact (if_neg notCurrent).trans ((if_neg notParent).trans (if_neg notAsked))

theorem descend_long (allowed : ¬ (asksDirectory = true ∧ purpose = .creation))
    (isDirectory : files.face? here = some .directory) (notCurrent : step ≠ ".") (notParent : step ≠ "..")
    (isLong : longestName < step.utf8ByteSize) :
    files.descend purpose asksDirectory here (step :: rest) = .error .nameTooLong := by
  obtain ⟨entries, found⟩ := exists_directory_of_face? isDirectory
  rw [descend_name allowed found notCurrent notParent, if_pos isLong]

theorem descend_missing (allowed : ¬ (asksDirectory = true ∧ purpose = .creation))
    (isDirectory : files.face? here = some .directory) (notCurrent : step ≠ ".") (notParent : step ≠ "..")
    (fits : step.utf8ByteSize ≤ longestName) (missing : files.shape? (here ++ [step]) = none) :
    files.descend purpose asksDirectory here (step :: rest) =
      if rest.isEmpty then .ok (.arrived (.free (here ++ [step]))) else .error .noEntry := by
  obtain ⟨entries, found⟩ := exists_directory_of_face? isDirectory
  rw [shape?_eq_none, face?_eq_map, Option.map_eq_none_iff, get?_append_singleton found] at missing
  rw [descend_name allowed found notCurrent notParent, if_neg (Nat.not_lt.mpr fits), missing]

theorem descend_file (allowed : ¬ (asksDirectory = true ∧ purpose = .creation))
    (isDirectory : files.face? here = some .directory) (notCurrent : step ≠ ".") (notParent : step ≠ "..")
    (fits : step.utf8ByteSize ≤ longestName) {content : ByteArray}
    (isFile : files.face? (here ++ [step]) = some (.file content)) :
    files.descend purpose asksDirectory here (step :: rest) =
      if rest.isEmpty then arrive purpose asksDirectory (here ++ [step]) (.file content)
      else .error .notDirectory := by
  obtain ⟨entries, found⟩ := exists_directory_of_face? isDirectory
  have there := get?_of_face?_file isFile
  have entered := there
  rw [get?_append_singleton found] at entered
  rw [descend_name allowed found notCurrent notParent, if_neg (Nat.not_lt.mpr fits), entered]
  cases rest <;> simp [descend, there]

end Stop

variable {path : FilePath}

theorem resolve_eq (admissible : Admissible path) (purpose : Purpose) :
    files.resolve purpose path =
      files.follow purpose 40 (asksForDirectory path.text) (files.startOf path) (stepsOf path.text) := by
  have noNull : path.text.toList.contains '\x00' = false := by simpa using admissible.null
  have notEmpty : path.text.isEmpty = false := by simpa using admissible.nonempty
  unfold resolve
  simp only [noNull, notEmpty, Nat.not_lt.mpr admissible.short, Bool.false_eq_true, if_false]

theorem resolve_of_arrived (admissible : Admissible path) {place : Place}
    (walked : files.descend purpose (asksForDirectory path.text) (files.startOf path) (stepsOf path.text) =
      .ok (.arrived place)) : files.resolve purpose path = .ok place := by
  rw [resolve_eq admissible, follow]
  simp only [walked]

theorem resolve_of_error (admissible : Admissible path) {reason : OsError}
    (walked : files.descend purpose (asksForDirectory path.text) (files.startOf path) (stepsOf path.text) =
      .error reason) : files.resolve purpose path = .error reason := by
  rw [resolve_eq admissible, follow]
  simp only [walked]

theorem entry_allowed : ¬ (asksDirectory = true ∧ Purpose.entry = .creation) := by simp

/-- A path whose steps lead through directories leads to the last of them. -/
theorem resolve_of_paved (allowed : ¬ (asksForDirectory path.text = true ∧ purpose = .creation)) (admissible : Admissible path)
    (paved : files.Paved (files.startOf path) (stepsOf path.text)) :
    ∃ entries, files.resolve purpose path = .ok (.taken (files.placeOf path) (.directory entries)) := by
  obtain ⟨entries, found⟩ := exists_directory_of_face? paved.directory
  have walked := descend_paved purpose (asksForDirectory path.text) allowed paved []
  rw [List.append_nil, descend_nil found] at walked
  exact ⟨entries, resolve_of_arrived admissible walked⟩

section Stop

variable {front rest : List String} {step : String}
  (allowed : ¬ (asksForDirectory path.text = true ∧ purpose = .creation)) (admissible : Admissible path)
  (steps : stepsOf path.text = front ++ step :: rest) (paved : files.Paved (files.startOf path) front)
  (notCurrent : step ≠ ".") (notParent : step ≠ "..")

include allowed admissible steps paved notCurrent notParent

theorem resolve_of_long (isLong : longestName < step.utf8ByteSize) :
    files.resolve purpose path = .error .nameTooLong := by
  have walked := descend_paved purpose (asksForDirectory path.text) allowed paved (step :: rest)
  rw [← steps, descend_long allowed paved.directory notCurrent notParent isLong] at walked
  exact resolve_of_error admissible walked

theorem resolve_of_missing (fits : step.utf8ByteSize ≤ longestName)
    (missing : files.shape? (reach (files.startOf path) front ++ [step]) = none) :
    files.resolve purpose path =
      if rest.isEmpty then .ok (.free (reach (files.startOf path) front ++ [step])) else .error .noEntry := by
  have walked := descend_paved purpose (asksForDirectory path.text) allowed paved (step :: rest)
  rw [← steps, descend_missing allowed paved.directory notCurrent notParent fits missing] at walked
  cases rest with
  | nil => exact resolve_of_arrived admissible walked
  | cons next rest => exact resolve_of_error admissible walked

theorem resolve_of_file (notContent : purpose ≠ .content) (fits : step.utf8ByteSize ≤ longestName) {content : ByteArray}
    (isFile : files.face? (reach (files.startOf path) front ++ [step]) = some (.file content)) :
    files.resolve purpose path =
      if rest.isEmpty then .ok (.taken (reach (files.startOf path) front ++ [step]) (.file content))
      else .error .notDirectory := by
  have walked := descend_paved purpose (asksForDirectory path.text) allowed paved (step :: rest)
  rw [← steps, descend_file allowed paved.directory notCurrent notParent fits isFile] at walked
  cases rest with
  | nil => exact resolve_of_arrived admissible (by simpa [arrive, notContent] using walked)
  | cons next rest => exact resolve_of_error admissible walked

end Stop

/-- In a tree without links a path leads to a directory if its steps lead to one through directories. -/
theorem isDirectory_iff (linkFree : files.LinkFree) (admissible : Admissible path) :
    files.isDirectory path = true ↔ files.Paved (files.startOf path) (stepsOf path.text) := by
  constructor
  · intro leads
    unfold isDirectory at leads
    split at leads
    · rename_i names node resolved
      obtain ⟨-, through, found⟩ := endsAt_of_resolve linkFree resolved
      have same := through.eq_reach
      subst same
      refine ⟨through, ?_⟩
      cases node with
      | directory entries => rw [face?_eq_map, found]; rfl
      | file content => contradiction
      | link target => contradiction
    · contradiction
  · intro paved
    have allowed : ¬ (asksForDirectory path.text = true ∧ Purpose.content = .creation) := by simp
    obtain ⟨entries, resolved⟩ := resolve_of_paved allowed admissible paved
    unfold isDirectory
    rw [resolved]
    rfl

theorem makeDirectory_of_paved (admissible : Admissible path)
    (paved : files.Paved (files.startOf path) (stepsOf path.text)) :
    files.makeDirectory path = .error .alreadyExists := by
  obtain ⟨entries, resolved⟩ := resolve_of_paved entry_allowed admissible paved
  unfold makeDirectory
  rw [resolved]

section Stop

variable {front rest : List String} {step : String} (admissible : Admissible path)
  (steps : stepsOf path.text = front ++ step :: rest) (paved : files.Paved (files.startOf path) front)
  (notCurrent : step ≠ ".") (notParent : step ≠ "..")

include admissible steps paved notCurrent notParent

theorem makeDirectory_of_long (isLong : longestName < step.utf8ByteSize) :
    files.makeDirectory path = .error .nameTooLong := by
  unfold makeDirectory
  rw [resolve_of_long entry_allowed admissible steps paved notCurrent notParent isLong]

theorem makeDirectory_of_missing (fits : step.utf8ByteSize ≤ longestName)
    (missing : files.shape? (reach (files.startOf path) front ++ [step]) = none) :
    files.makeDirectory path =
      if rest.isEmpty then .ok (files.put (reach (files.startOf path) front ++ [step]) .emptyDirectory)
      else .error .noEntry := by
  unfold makeDirectory
  rw [resolve_of_missing entry_allowed admissible steps paved notCurrent notParent fits missing]
  cases rest <;> rfl

theorem makeDirectory_of_file (fits : step.utf8ByteSize ≤ longestName)
    (isFile : files.shape? (reach (files.startOf path) front ++ [step]) = some .file) :
    files.makeDirectory path = .error (if rest.isEmpty then .alreadyExists else .notDirectory) := by
  obtain ⟨content, face⟩ := shape?_eq_file.mp isFile
  unfold makeDirectory
  rw [resolve_of_file entry_allowed admissible steps paved notCurrent notParent (by simp) fits face]
  cases rest <;> rfl

end Stop

def barrier (step : String) (rest : List String) : OsError :=
  if longestName < step.utf8ByteSize then .nameTooLong else if rest.isEmpty then .alreadyExists else .notDirectory

theorem barrier_ne_noEntry (step : String) (rest : List String) : barrier step rest ≠ .noEntry := by
  unfold barrier
  split
  · simp
  · split <;> simp

theorem makeDirectory_of_barred {front rest : List String} {step : String} (admissible : Admissible path)
    (steps : stepsOf path.text = front ++ step :: rest) (paved : files.Paved (files.startOf path) front)
    (barred : files.passes (reach (files.startOf path) front) step = false) :
    files.makeDirectory path = .error (barrier step rest) := by
  obtain ⟨notCurrent, notParent⟩ := name_of_barred barred
  unfold barrier
  split
  · rename_i isLong
    exact makeDirectory_of_long admissible steps paved notCurrent notParent isLong
  · rename_i notLong
    have fits := Nat.le_of_not_lt notLong
    exact makeDirectory_of_file admissible steps paved notCurrent notParent fits (file_of_not_passes barred fits)

def OnClear (files : FileSystem) (here steps names : List String) : Prop :=
  ∃ front, front <+: files.clear here steps ∧ names = reach here front

/-- One tree has all directories that were missing at some places, and is like the other elsewhere. -/
structure Opens (files : FileSystem) (places : List String → Prop) (after : FileSystem) : Prop where
  working : after.working = files.working
  made : ∀ names, files.face? names = none → places names → after.face? names = some .directory
  kept : ∀ names, files.face? names ≠ none ∨ ¬ places names → after.face? names = files.face? names

def verdict (obstacle : Option OsError) : Except OsError Unit :=
  match obstacle with
  | none => .ok ()
  | some cause => .error cause

variable {steps : List String}

theorem Paved.not_missing (paved : files.Paved here (files.clear here steps)) {names : List String}
    (onClear : files.OnClear here steps names) : files.face? names ≠ none := by
  obtain ⟨front, isFront, rfl⟩ := onClear
  simp [paved.atFront isFront]

theorem Paved.opens (paved : files.Paved here (files.clear here steps)) : files.Opens (files.OnClear here steps) files :=
  ⟨rfl, fun _ missing onClear => absurd missing (paved.not_missing onClear), fun _ _ => rfl⟩

namespace Opens

variable {places : List String → Prop}

theorem face (opens : files.Opens places after) (names : List String) :
    after.face? names = files.face? names ∨
      (files.face? names = none ∧ places names ∧ after.face? names = some .directory) := by
  by_cases missing : files.face? names = none
  · by_cases isPlace : places names
    · exact .inr ⟨missing, isPlace, opens.made names missing isPlace⟩
    · exact .inl (opens.kept names (.inr isPlace))
  · exact .inl (opens.kept names (.inl missing))

theorem linkFree (opens : files.Opens places after) (linkFree : files.LinkFree) : after.LinkFree := by
  intro names target isLink
  obtain same | ⟨-, -, isDirectory⟩ := opens.face names
  · exact linkFree names target (same ▸ isLink)
  · simp [isDirectory] at isLink

theorem shape?_eq_file (opens : files.Opens places after) (names : List String) :
    after.shape? names = some .file ↔ files.shape? names = some .file := by
  obtain same | ⟨missing, -, isDirectory⟩ := opens.face names
  · simp [shape?, same]
  · simp [shape?, missing, isDirectory, Node.Face.shape]

end Opens

theorem clear_clear (files : FileSystem) (here steps : List String) :
    files.clear here (files.clear here steps) = files.clear here steps := by
  induction steps generalizing here with
  | nil => rfl
  | cons step steps ih =>
      by_cases taken : files.passes here step
      · have further : files.clear here (step :: steps) = step :: files.clear (advance here step) steps := by
          rw [clear, if_pos taken]
        rw [further, clear, if_pos taken, ih]
      · have nothing : files.clear here (step :: steps) = [] := by rw [clear, if_neg taken]
        rw [nothing, clear]

/-- On a clear way from a directory there is no file, nor is one above it. The induction keeps both, since a step can
lead upwards. -/
theorem not_file_on_clear {front : List String} (unblocked : ∀ names, names <+: here → files.shape? names ≠ some .file)
    (isFront : front <+: files.clear here steps) :
    ∀ names, names <+: reach here front → files.shape? names ≠ some .file := by
  induction steps generalizing here front with
  | nil =>
      rw [clear, List.prefix_nil] at isFront
      simpa [isFront, reach] using unblocked
  | cons step steps ih =>
      cases front with
      | nil => simpa [reach] using unblocked
      | cons next front =>
          unfold clear at isFront
          split at isFront
          · rename_i taken
            obtain ⟨rfl, isRest⟩ := List.cons_prefix_cons.mp isFront
            suffices further : ∀ names, names <+: advance here next → files.shape? names ≠ some .file by
              have rest := ih further isRest
              exact rest
            intro names above
            by_cases isCurrent : next = "."
            · exact unblocked names (by simpa [advance, isCurrent] using above)
            · by_cases isParent : next = ".."
              · have higher : names <+: here.dropLast := by simpa [advance, isParent] using above
                exact unblocked names (higher.trans (List.dropLast_prefix here))
              · rw [advance_name isCurrent isParent] at above
                obtain rfl | higher := List.prefix_concat_iff.mp above
                · exact ((passes_name isCurrent isParent here).mp taken).2
                · exact unblocked names higher
          · simp at isFront

theorem unblocked_of_directory (start : files.face? here = some .directory) :
    ∀ names, names <+: here → files.shape? names ≠ some .file := by
  rintro names ⟨others, rfl⟩ isFile
  obtain ⟨content, face⟩ := shape?_eq_file.mp isFile
  cases others with
  | nil => simp [face] at start
  | cons name others =>
      have nothing : files.face? (names ++ name :: others) = none := Node.face?_inside name others (.inr ⟨content, face⟩)
      rw [nothing] at start
      contradiction

namespace Opens

/-- Where all was made that was missing on a way, what is clear of it leads through directories. -/
theorem paved (opens : files.Opens (files.OnClear here steps) after) (linkFree : files.LinkFree)
    (start : files.face? here = some .directory) : after.Paved here (files.clear here steps) := by
  refine paved_of_clear (files.clear_clear here steps) fun front isFront => ?_
  obtain missing | isFile | isDirectory := shape?_cases linkFree (reach here front)
  · exact opens.made _ (shape?_eq_none.mp missing) ⟨front, isFront, rfl⟩
  · exact absurd isFile (not_file_on_clear (unblocked_of_directory start) isFront _ (List.prefix_refl _))
  · have there := shape?_eq_directory.mp isDirectory
    rw [opens.kept _ (.inl (by simp [there])), there]

theorem congr {places others : List String → Prop} (opens : files.Opens places after)
    (same : ∀ names, places names ↔ others names) : files.Opens others after :=
  ⟨opens.working, fun names missing isPlace => opens.made names missing ((same names).mpr isPlace),
    fun names unchanged => opens.kept names (unchanged.imp_right fun off on => off ((same names).mp on))⟩

end Opens

theorem clear_snoc {init : List String} {last : String} (isClear : files.clear here init = init)
    (taken : files.passes (reach here init) last = true) : files.clear here (init ++ [last]) = init ++ [last] := by
  rw [clear_append isClear, clear, if_pos taken, clear]

theorem onClear_snoc {init : List String} {last : String} (isClear : files.clear here init = init)
    (taken : files.passes (reach here init) last = true) {names : List String} :
    files.OnClear here (init ++ [last]) names ↔
      files.OnClear here init names ∨ names = advance (reach here init) last := by
  unfold OnClear
  rw [clear_snoc isClear taken, isClear]
  constructor
  · rintro ⟨front, isFront, rfl⟩
    obtain rfl | shorter := List.prefix_concat_iff.mp isFront
    · exact .inr (reach_snoc here init last)
    · exact .inl ⟨front, shorter, rfl⟩
  · rintro (⟨front, isFront, rfl⟩ | rfl)
    · exact ⟨front, isFront.trans (List.prefix_append _ _), rfl⟩
    · exact ⟨_, List.prefix_refl _, (reach_snoc here init last).symm⟩

theorem clear_of_stop {front rest : List String} {step : String} (isClear : files.clear here front = front)
    (stops : files.passes (reach here front) step = false) : files.clear here (front ++ step :: rest) = front := by
  rw [clear_append isClear, clear, if_neg (by simp [stops]), List.append_nil]

theorem onClear_of_stop {front rest : List String} {step : String} (isClear : files.clear here front = front)
    (stops : files.passes (reach here front) step = false) {names : List String} :
    files.OnClear here front names ↔ files.OnClear here (front ++ step :: rest) names := by
  simp only [OnClear, clear_of_stop isClear stops, isClear]

/-- A step that cannot be taken is reported as it is met, if nothing is missing in front of it or nothing follows it. -/
theorem obstacle_of_barred {front rest : List String} {step : String} (isClear : files.clear here front = front)
    (barred : files.passes (reach here front) step = false) (met : rest = [] ∨ files.lacks here front = false) :
    files.obstacle here (front ++ step :: rest) = some (barrier step rest) := by
  rw [obstacle_of_stop (clear_of_stop isClear barred), barrier]
  obtain rfl | whole := met
  · simp only [List.isEmpty_nil, Bool.true_or, if_true]
    split <;> rfl
  · simp only [whole, Bool.or_false]
    split
    · rfl
    · split <;> rfl

/-- A directory that is there now at the next step makes the clear way longer. -/
theorem Opens.snoc {made : FileSystem} {init : List String} {last : String}
    (opens : files.Opens (files.OnClear here init) after) (isClear : files.clear here init = init)
    (taken : files.passes (reach here init) last = true) (working : made.working = after.working)
    (isDirectory : made.face? (advance (reach here init) last) = some .directory)
    (before : files.face? (advance (reach here init) last) = none ∨
      files.face? (advance (reach here init) last) = some .directory)
    (elsewhere : ∀ names, names ≠ advance (reach here init) last → made.face? names = after.face? names) :
    files.Opens (files.OnClear here (init ++ [last])) made := by
  refine ⟨working.trans opens.working, fun names missing onClear => ?_, fun names unchanged => ?_⟩
  · by_cases atEnd : names = advance (reach here init) last
    · rwa [atEnd]
    · obtain earlier | same := (onClear_snoc isClear taken).mp onClear
      · rw [elsewhere names atEnd, opens.made names missing earlier]
      · exact absurd same atEnd
  · by_cases atEnd : names = advance (reach here init) last
    · subst atEnd
      obtain missing | there := before
      · obtain something | off := unchanged
        · exact absurd missing something
        · exact absurd ((onClear_snoc isClear taken).mpr (.inr rfl)) off
      · rw [isDirectory, there]
    · rw [elsewhere names atEnd]
      exact opens.kept names (unchanged.imp_right fun off on => off ((onClear_snoc isClear taken).mpr (.inl on)))

/-- What comes of the last directory once those in front of it have been made. -/
def finish (files : FileSystem) (path : FilePath) : FileSystem × Except OsError Unit :=
  match files.makeDirectory path with
  | .ok made => (made, .ok ())
  | .error reason => (files, if files.isDirectory path then .ok () else .error reason)

theorem finish_of_refused {reason : OsError} (refused : files.makeDirectory path = .error reason)
    (noDirectory : files.isDirectory path = false) : files.finish path = (files, .error reason) := by
  simp only [finish, refused, noDirectory, Bool.false_eq_true, if_false]

theorem finish_of_paved (linkFree : files.LinkFree) (admissible : Admissible path)
    (paved : files.Paved (files.startOf path) (stepsOf path.text)) : files.finish path = (files, .ok ()) := by
  simp only [finish, makeDirectory_of_paved admissible paved, (isDirectory_iff linkFree admissible).mpr paved, if_true]

theorem finish_of_barred (linkFree : files.LinkFree) {front rest : List String} {step : String}
    (admissible : Admissible path) (steps : stepsOf path.text = front ++ step :: rest)
    (paved : files.Paved (files.startOf path) front)
    (barred : files.passes (reach (files.startOf path) front) step = false) :
    files.finish path = (files, .error (barrier step rest)) := by
  refine finish_of_refused (makeDirectory_of_barred admissible steps paved barred) ?_
  rw [Bool.eq_false_iff]
  intro isDirectory
  rw [isDirectory_iff linkFree admissible, steps, List.append_cons] at isDirectory
  have there := isDirectory.front.directory
  rw [reach_snoc] at there
  simp [passes_of_directory isDirectory.front.snoc_isShort there] at barred

/-- Behind a clear way, the last directory is made, was there, or meets an obstacle. -/
theorem finish_opens (linkFree : files.LinkFree) (start : files.face? here = some .directory) {init : List String}
    {last : String} (opens : files.Opens (files.OnClear here init) after) (isClear : files.clear here init = init)
    (admissible : Admissible path) (steps : stepsOf path.text = init ++ [last]) (startsHere : after.startOf path = here) :
    files.Opens (files.OnClear here (init ++ [last])) (after.finish path).1 ∧
      (after.finish path).2 = verdict (files.obstacle here (init ++ [last])) := by
  have paved : after.Paved here init := isClear ▸ opens.paved linkFree start
  have afterLinkFree := opens.linkFree linkFree
  have samePasses : files.passes (reach here init) last = after.passes (reach here init) last :=
    passes_congr (opens.shape?_eq_file _).symm
  subst startsHere
  by_cases further : after.Paved (after.startOf path) (init ++ [last])
  · -- The last directory is there already.
    have isDirectory := further.directory
    rw [reach_snoc] at isDirectory
    have taken := samePasses.trans (passes_of_directory further.snoc_isShort isDirectory)
    have before := (opens.face (advance (reach (after.startOf path) init) last)).symm.imp And.left fun same => same ▸ isDirectory
    rw [finish_of_paved afterLinkFree admissible (steps ▸ further), obstacle_of_clear (clear_snoc isClear taken)]
    exact ⟨opens.snoc isClear taken rfl isDirectory before fun _ _ => rfl, rfl⟩
  obtain ⟨notCurrent, notParent, fits, missing⟩ | barred := missing_or_barred afterLinkFree paved further
  · -- The last directory is missing.
    have atEnd := advance_name notCurrent notParent (reach (after.startOf path) init)
    have missingBefore : files.face? (reach (after.startOf path) init ++ [last]) = none := by
      obtain same | ⟨none, -, -⟩ := opens.face (reach (after.startOf path) init ++ [last])
      · rw [← same, shape?_eq_none.mp missing]
      · exact none
    have taken : files.passes (reach (after.startOf path) init) last = true :=
      (passes_name notCurrent notParent _).mpr ⟨fits, by simp [shape?_eq_none.mpr missingBefore]⟩
    have made := makeDirectory_of_missing admissible steps paved notCurrent notParent fits missing
    have finished : after.finish path = (after.put (reach (after.startOf path) init ++ [last]) .emptyDirectory, .ok ()) := by
      simp only [finish, made, List.isEmpty_nil, if_true]
    have fitsThere : after.root.Fits (reach (after.startOf path) init ++ [last]) :=
      ⟨fun _ => by simpa [face?] using paved.directory, .inl (shape?_eq_none.mp missing)⟩
    have faces := fun names => face?_put Node.isLeaf_emptyDirectory fitsThere names
    rw [finished, obstacle_of_clear (clear_snoc isClear taken)]
    refine ⟨opens.snoc isClear taken rfl ?_ (.inl (atEnd ▸ missingBefore)) fun names other => ?_, rfl⟩
    · rw [atEnd, faces, if_pos rfl]
      rfl
    · rw [faces, if_neg (atEnd ▸ other)]
  · -- The last directory cannot be made.
    have stops := samePasses.trans barred
    rw [finish_of_barred afterLinkFree admissible steps paved barred, obstacle_of_barred isClear stops (.inl rfl)]
    exact ⟨opens.congr fun names => onClear_of_stop isClear stops, rfl⟩

theorem makeDirectoriesWithin_empty (depth : Nat) (empty : path.text = "") :
    makeDirectoriesWithin (depth + 1) path files = (files, .ok ()) := by
  simp [makeDirectoriesWithin, empty]

theorem makeDirectoriesWithin_finish (depth : Nat) (nonempty : path.text ≠ "")
    (ready : files.makeDirectory path ≠ .error .noEntry) :
    makeDirectoriesWithin (depth + 1) path files = files.finish path := by
  have notEmpty : path.text.isEmpty = false := by simpa using nonempty
  unfold makeDirectoriesWithin finish
  rw [notEmpty, if_neg Bool.false_ne_true]
  cases made : files.makeDirectory path with
  | ok after => rfl
  | error reason =>
      cases reason with
      | noEntry => exact absurd made ready
      | alreadyExists | notDirectory | isDirectory | permissionDenied | nameTooLong | tooManyLinks | nulInName | notUtf8
      | worded => rfl

theorem makeDirectoriesWithin_parent (depth : Nat) (nonempty : path.text ≠ "")
    (missing : files.makeDirectory path = .error .noEntry) {parent : FilePath} (isParent : path.parent? = some parent) :
    makeDirectoriesWithin (depth + 1) path files =
      match makeDirectoriesWithin depth parent files with
      | (made, .error reason) => (made, .error reason)
      | (made, .ok ()) => made.finish path := by
  have notEmpty : path.text.isEmpty = false := by simpa using nonempty
  conv => lhs; unfold makeDirectoriesWithin
  rw [notEmpty, if_neg Bool.false_ne_true]
  simp only [missing, isParent]
  rcases makeDirectoriesWithin depth parent files with ⟨made, reason | done⟩
  · rfl
  · dsimp only
    unfold finish
    cases made.makeDirectory path <;> rfl

theorem clear_of_stay {dots : List String} (stay : ∀ step ∈ dots, step = ".") : files.clear here dots = dots := by
  induction dots generalizing here with
  | nil => rfl
  | cons step dots ih =>
      obtain ⟨rfl, others⟩ := List.forall_mem_cons.mp stay
      rw [clear, if_pos (by simp [passes]), ih others]

theorem reach_of_stay {dots : List String} (stay : ∀ step ∈ dots, step = ".") (here : List String) :
    reach here dots = here := by
  induction dots generalizing here with
  | nil => rfl
  | cons step dots ih =>
      obtain ⟨rfl, others⟩ := List.forall_mem_cons.mp stay
      have rest := ih others here
      simpa [reach, advance] using rest

theorem onClear_stay {front dots : List String} (isClear : files.clear here front = front)
    (stay : ∀ step ∈ dots, step = ".") (names : List String) :
    files.OnClear here front names ↔ files.OnClear here (front ++ dots) names := by
  have whole : files.clear here (front ++ dots) = front ++ dots := by
    rw [clear_append isClear, clear_of_stay stay]
  unfold OnClear
  rw [whole, isClear]
  constructor
  · rintro ⟨some, isFront, rfl⟩
    exact ⟨some, isFront.trans (List.prefix_append _ _), rfl⟩
  · rintro ⟨some, isFront, rfl⟩
    obtain inFront | ⟨others, rfl⟩ := List.prefix_or_prefix_of_prefix isFront (List.prefix_append front dots)
    · exact ⟨some, inFront, rfl⟩
    · have isDots : others <+: dots := (List.prefix_append_right_inj front).mp isFront
      have othersStay : ∀ step ∈ others, step = "." := fun step member => stay step (isDots.subset member)
      exact ⟨front, List.prefix_refl _, by rw [reach_append, reach_of_stay othersStay]⟩

/-- A way that is blocked stays blocked where it goes on, and if something is missing on it, for the same reason. -/
theorem obstacle_append {front : List String} (others : List String) (blocked : files.clear here front ≠ front)
    (missing : files.lacks here (files.clear here front) = true) :
    files.obstacle here (front ++ others) = files.obstacle here front := by
  obtain ⟨step, rest, split, -⟩ := exists_stop blocked
  have same := clear_append_of_ne blocked others
  have longer : front ++ others = files.clear here front ++ step :: (rest ++ others) := by
    conv => lhs; rw [split]
    simp
  have atFront : files.obstacle here front = files.obstacle here (files.clear here front ++ step :: rest) := by
    rw [← split]
  rw [atFront, longer, obstacle_of_stop (by rw [← longer, same]), obstacle_of_stop (by rw [← split]), missing]
  simp

theorem Admissible.parent (admissible : Admissible path) {parent : FilePath} (isParent : path.parent? = some parent) :
    parent.text = "" ∨ Admissible parent := by
  by_cases empty : parent.text = ""
  · exact .inl empty
  · obtain ⟨rest, text⟩ := FilePath.exists_text_parent isParent
    have chars : path.text.toList = parent.text.toList ++ rest.toList := by rw [text, String.toList_append]
    have sizes : path.text.utf8ByteSize = parent.text.utf8ByteSize + rest.utf8ByteSize := by
      rw [text, String.utf8ByteSize_append]
    have bound := admissible.short
    refine .inr ⟨fun isNull => admissible.null ?_, empty, by omega⟩
    rw [chars]
    exact List.mem_append_left _ isNull

/-- The number of steps that lead elsewhere bounds how often the parent is asked for. -/
def moves (path : FilePath) : Nat :=
  ((stepsOf path.text).filter (· ≠ ".")).length

theorem moves_le_components (path : FilePath) : moves path ≤ path.components.length := by
  have counts : ∀ pieces : List String, ((pieces.filter (· ≠ "")).filter (· ≠ ".")).length =
      (pieces.filterMap FilePath.Component.ofPiece?).length := by
    intro pieces
    induction pieces with
    | nil => rfl
    | cons piece others ih =>
        by_cases empty : piece = ""
        · simpa [FilePath.Component.ofPiece?, empty] using ih
        · by_cases isCurrent : piece = "."
          · simpa [FilePath.Component.ofPiece?, isCurrent] using ih
          · by_cases isParent : piece = ".."
            · simpa [FilePath.Component.ofPiece?, isParent] using ih
            · simpa [FilePath.Component.ofPiece?, empty, isCurrent, isParent] using ih
  have same : FilePath.mk path.text = path := rfl
  rw [moves, stepsOf, same, counts, FilePath.components, List.length_append]
  exact Nat.le_add_left _ _

/-- A path has one step more that leads elsewhere than its parent. -/
theorem moves_of_parent (trimmed : path.Trimmed) {parent : FilePath} (isParent : path.parent? = some parent)
    {step : String} (member : step ∈ stepsOf path.text) (notCurrent : step ≠ ".") : moves path = moves parent + 1 := by
  obtain ⟨dots, last, steps, stay⟩ := FilePath.steps_of_parent trimmed isParent
  have notLast : last ≠ "." := by
    rintro rfl
    have nothing := trimmed (stepsOf parent.text ++ dots) steps
    rw [steps, nothing] at member
    exact notCurrent (by simpa using member)
  simpa [moves, steps, notLast] using stay

theorem lacks_of_missing {front rest : List String} {step : String} (isClear : files.clear here front = front)
    (taken : files.passes (reach here front) step = true)
    (missing : files.shape? (advance (reach here front) step) = none) :
    files.lacks here (files.clear here (front ++ step :: rest)) = true := by
  refine lacks_eq_true.mpr ⟨front ++ [step], ?_, by rwa [reach_snoc]⟩
  rw [clear_append isClear, clear, if_pos taken]
  exact ⟨_, (List.append_cons _ _ _).symm⟩

theorem Opens.blocked {front others : List String} (opens : files.Opens (files.OnClear here front) after)
    (blocked : files.clear here front ≠ front) (lacks : files.lacks here (files.clear here (front ++ others)) = true) :
    files.Opens (files.OnClear here (front ++ others)) after ∧
      files.obstacle here (front ++ others) = files.obstacle here front := by
  have same := clear_append_of_ne blocked others
  exact ⟨opens.congr fun names => by simp only [OnClear, same], obstacle_append others blocked (same ▸ lacks)⟩

theorem Opens.finish_parent (linkFree : files.LinkFree) (start : files.face? (files.startOf path) = some .directory)
    {front dots : List String} {last : String} (opens : files.Opens (files.OnClear (files.startOf path) front) after)
    (isClear : files.clear (files.startOf path) front = front) (stay : ∀ step ∈ dots, step = ".")
    (admissible : Admissible path) (steps : stepsOf path.text = front ++ dots ++ [last]) :
    files.Opens (files.OnClear (files.startOf path) (front ++ dots ++ [last])) (after.finish path).1 ∧
      (after.finish path).2 = verdict (files.obstacle (files.startOf path) (front ++ dots ++ [last])) := by
  have initClear : files.clear (files.startOf path) (front ++ dots) = front ++ dots := by
    rw [clear_append isClear, clear_of_stay stay]
  exact finish_opens linkFree start (opens.congr (onClear_stay isClear stay)) initClear admissible steps
    (startOf_congr opens.working rfl)

theorem verdict_eq_ok {obstacle : Option OsError} : verdict obstacle = .ok () ↔ obstacle = none := by
  cases obstacle <;> simp [verdict]

/-- Making a directory from a directory: what is missing on the clear steps of the path is made, and an obstacle is
reported if there is one. The induction goes from the path to its parents. -/
theorem makeDirectoriesWithin_opens (linkFree : files.LinkFree) {depth : Nat} {path : FilePath}
    (start : files.face? (files.startOf path) = some .directory) (trimmed : path.Trimmed)
    (admissible : path.text = "" ∨ Admissible path) (enough : moves path < depth) :
    files.Opens (files.OnClear (files.startOf path) (stepsOf path.text)) (makeDirectoriesWithin depth path files).1 ∧
      (makeDirectoriesWithin depth path files).2 =
        verdict (files.obstacle (files.startOf path) (stepsOf path.text)) := by
  induction depth generalizing path with
  | zero => exact absurd enough (Nat.not_lt_zero _)
  | succ depth ih =>
      obtain empty | admissible := admissible
      · rw [makeDirectoriesWithin_empty depth empty, empty]
        simp only [FilePath.steps_empty]
        exact ⟨Paved.opens (.nil start), rfl⟩
      have nonempty := admissible.nonempty
      obtain paved | ⟨front, step, rest, split, paved, stops⟩ := paved_or_stops start (stepsOf path.text)
      · -- All is there.
        have ready : files.makeDirectory path ≠ .error .noEntry := by simp [makeDirectory_of_paved admissible paved]
        rw [makeDirectoriesWithin_finish depth nonempty ready, finish_of_paved linkFree admissible paved,
          obstacle_of_clear paved.clear]
        exact ⟨Paved.opens (paved.clear.symm ▸ paved), rfl⟩
      obtain ⟨notCurrent, notParent, fits, missing⟩ | barred := missing_or_barred linkFree paved stops
      · have made := makeDirectory_of_missing admissible split paved notCurrent notParent fits missing
        cases rest with
        | nil =>
            -- The last directory is missing, and nothing else.
            rw [makeDirectoriesWithin_finish depth nonempty (by simp [made]), split]
            exact finish_opens linkFree start (Paved.opens (paved.clear.symm ▸ paved)) paved.clear admissible split rfl
        | cons next rest =>
            have member : step ∈ stepsOf path.text := by simp [split]
            cases isParent : path.parent? with
            | none => exact absurd (FilePath.stay_of_no_parent isParent step member) notCurrent
            | some parent =>
                obtain ⟨dots, last, steps, stay⟩ := FilePath.steps_of_parent trimmed isParent
                have sameStart : files.startOf parent = files.startOf path :=
                  startOf_congr rfl (FilePath.steps_parent isParent).2
                have counted := moves_of_parent trimmed isParent member notCurrent
                obtain ⟨opens, outcome⟩ := ih (sameStart ▸ start) (FilePath.trimmed_parent isParent)
                  (admissible.parent isParent) (by omega)
                rw [sameStart] at opens outcome
                rw [makeDirectoriesWithin_parent depth nonempty (by simpa using made) isParent]
                rcases recursion : makeDirectoriesWithin depth parent files with ⟨middle, reason | done⟩
                · -- The obstacle is met by the parent.
                  rw [recursion] at opens outcome
                  have blocked : files.clear (files.startOf path) (stepsOf parent.text) ≠ stepsOf parent.text := by
                    intro isClear
                    rw [obstacle_of_clear isClear] at outcome
                    contradiction
                  have lacks : files.lacks (files.startOf path) (files.clear (files.startOf path) (stepsOf path.text)) = true := by
                    have taken : files.passes (reach (files.startOf path) front) step = true :=
                      (passes_name notCurrent notParent _).mpr ⟨fits, by simp [missing]⟩
                    rw [split]
                    exact lacks_of_missing paved.clear taken (by rwa [advance_name notCurrent notParent])
                  rw [steps, List.append_assoc] at lacks ⊢
                  obtain ⟨further, same⟩ := opens.blocked blocked lacks
                  exact ⟨further, same ▸ outcome⟩
                · -- The parent is there now.
                  rw [recursion] at opens outcome
                  have isClear := obstacle_eq_none.mp (verdict_eq_ok.mp outcome.symm)
                  rw [steps]
                  exact opens.finish_parent linkFree start isClear stay admissible steps
      · -- A step cannot be taken.
        have refused := makeDirectory_of_barred admissible split paved barred
        have ready : files.makeDirectory path ≠ .error .noEntry := by simpa [refused] using barrier_ne_noEntry step rest
        rw [makeDirectoriesWithin_finish depth nonempty ready, finish_of_barred linkFree admissible split paved barred, split,
          obstacle_of_barred paved.clear barred (.inr paved.not_lacks)]
        exact ⟨Paved.opens ((clear_of_stop paved.clear barred).symm ▸ paved), rfl⟩

end Companion.FileSystem
