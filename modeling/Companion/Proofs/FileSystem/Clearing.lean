import Companion.Proofs.FilePath.Parent
import Companion.Proofs.FileSystem.Change
import Mathlib.Data.List.Infix

/-!
How far the directories of a path can be made. What stands in the way of a step is a file, or a name that is too long;
nothing else does, since a missing directory can be made. The steps in front of the first such obstacle are *clear*. They
depend on where the files of a tree are and on nothing else.
-/

set_option autoImplicit false

namespace Companion

inductive Node.Shape where
  | file
  | link
  | directory
  deriving DecidableEq, Repr

def Node.Face.shape : Node.Face → Node.Shape
  | file _ => .file
  | link _ => .link
  | directory => .directory

namespace FileSystem

def shape? (files : FileSystem) (names : List String) : Option Node.Shape :=
  (files.face? names).map Node.Face.shape

/-- Whether nothing but the directories in front of it has to be made to take a step. -/
def passes (files : FileSystem) (here : List String) (step : String) : Bool :=
  step == "." || step == ".." ||
    (decide (step.utf8ByteSize ≤ longestName) && files.shape? (here ++ [step]) != some .file)

/-- The steps in front of the first that cannot be taken. -/
def clear (files : FileSystem) : List String → List String → List String
  | _, [] => []
  | here, step :: steps => if files.passes here step then step :: files.clear (advance here step) steps else []

variable {files after : FileSystem} {here : List String}

theorem shape?_eq_none {names : List String} : files.shape? names = none ↔ files.face? names = none := by
  simp [shape?]

theorem shape?_eq_directory {names : List String} :
    files.shape? names = some .directory ↔ files.face? names = some .directory := by
  unfold shape?
  cases found : files.face? names with
  | none => simp
  | some face => cases face <;> simp [Node.Face.shape]

theorem shape?_eq_file {names : List String} :
    files.shape? names = some .file ↔ ∃ content, files.face? names = some (.file content) := by
  unfold shape?
  cases found : files.face? names with
  | none => simp
  | some face => cases face <;> simp [Node.Face.shape]

theorem shape?_cases (linkFree : files.LinkFree) (names : List String) :
    files.shape? names = none ∨ files.shape? names = some .file ∨ files.shape? names = some .directory := by
  unfold shape?
  cases found : files.face? names with
  | none => exact .inl rfl
  | some face =>
      cases face with
      | file content => exact .inr (.inl rfl)
      | link target => exact absurd found (linkFree names target)
      | directory => exact .inr (.inr rfl)

theorem directory_dropLast {names : List String} (isDirectory : files.face? names = some .directory) :
    files.face? names.dropLast = some .directory := by
  by_cases top : names = []
  · simpa [top] using isDirectory
  · obtain ⟨entries, found⟩ := exists_directory_of_face? isDirectory
    exact parent_of_get? found top

/-- Below a place at which there is nothing there is nothing. -/
theorem shape?_below {names : List String} (missing : files.shape? names = none) (name : String) :
    files.shape? (names ++ [name]) = none := by
  rw [shape?_eq_none] at missing ⊢
  exact Node.face?_inside name [] (.inl missing)

/-- Steps that lead through directories to a directory. -/
structure Paved (files : FileSystem) (here steps : List String) : Prop where
  leads : files.Leads here steps (reach here steps)
  directory : files.face? (reach here steps) = some .directory

theorem Leads.trans {middle place steps others : List String} (first : files.Leads here steps middle)
    (second : files.Leads middle others place) : files.Leads here (steps ++ others) place := by
  induction first with
  | arrived here => exact second
  | through isDirectory isShort _ ih => exact .through isDirectory isShort (ih second)

theorem reach_snoc (here steps : List String) (step : String) :
    reach here (steps ++ [step]) = advance (reach here steps) step := by
  simp [reach]

theorem advance_name {step : String} (notCurrent : step ≠ ".") (notParent : step ≠ "..") (here : List String) :
    advance here step = here ++ [step] := by
  simp [advance, notCurrent, notParent]

namespace Paved

theorem nil (isDirectory : files.face? here = some .directory) : files.Paved here [] :=
  ⟨.arrived here, isDirectory⟩

theorem snoc {steps : List String} {step : String} (paved : files.Paved here steps) (isShort : IsShort step)
    (isDirectory : files.face? (advance (reach here steps) step) = some .directory) :
    files.Paved here (steps ++ [step]) := by
  have next : files.Leads (reach here steps) [step] (advance (reach here steps) step) :=
    .through paved.directory isShort (.arrived _)
  rw [← reach_snoc] at next isDirectory
  exact ⟨paved.leads.trans next, isDirectory⟩

theorem current {steps : List String} (paved : files.Paved here steps) : files.Paved here (steps ++ ["."]) :=
  paved.snoc (.inl rfl) (by simpa [advance] using paved.directory)

theorem parent {steps : List String} (paved : files.Paved here steps) : files.Paved here (steps ++ [".."]) :=
  paved.snoc (.inr (.inl rfl)) (by simpa [advance] using directory_dropLast paved.directory)

theorem start {steps : List String} (paved : files.Paved here steps) : files.face? here = some .directory := by
  obtain ⟨leads, isDirectory⟩ := paved
  cases leads with
  | arrived => exact isDirectory
  | through start _ _ => exact start

theorem tail {steps : List String} {step : String} (paved : files.Paved here (step :: steps)) :
    files.Paved (advance here step) steps := by
  obtain ⟨leads, isDirectory⟩ := paved
  cases leads with
  | through _ _ rest => exact ⟨rest, isDirectory⟩

theorem isShort {steps : List String} {step : String} (paved : files.Paved here (step :: steps)) : IsShort step := by
  obtain ⟨leads, -⟩ := paved
  cases leads with
  | through _ isShort _ => exact isShort

theorem front {front others : List String} (paved : files.Paved here (front ++ others)) : files.Paved here front := by
  induction front generalizing here with
  | nil => exact .nil paved.start
  | cons step front ih =>
      have rest := ih paved.tail
      exact ⟨.through paved.start paved.isShort rest.leads, rest.directory⟩

theorem snoc_isShort {front : List String} {step : String} (paved : files.Paved here (front ++ [step])) :
    IsShort step := by
  induction front generalizing here with
  | nil => exact paved.isShort
  | cons _ front ih => exact ih paved.tail

theorem atFront {front steps : List String} (paved : files.Paved here steps) (isFront : front <+: steps) :
    files.face? (reach here front) = some .directory := by
  obtain ⟨others, rfl⟩ := isFront
  exact paved.front.directory

end Paved

/-- Steps lead through directories, or up to the first that does not lead to a directory. -/
theorem paved_or_stops (start : files.face? here = some .directory) (steps : List String) :
    files.Paved here steps ∨ ∃ front step rest, steps = front ++ step :: rest ∧ files.Paved here front ∧
      ¬ files.Paved here (front ++ [step]) := by
  induction steps using List.reverseRecOn with
  | nil => exact .inl (.nil start)
  | append_singleton steps step ih =>
      obtain paved | ⟨front, stop, rest, rfl, paved, stops⟩ := ih
      · by_cases further : files.Paved here (steps ++ [step])
        · exact .inl further
        · exact .inr ⟨steps, step, [], rfl, paved, further⟩
      · exact .inr ⟨front, stop, rest ++ [step], by simp, paved, stops⟩

theorem clear_isFront (files : FileSystem) (here steps : List String) : files.clear here steps <+: steps := by
  induction steps generalizing here with
  | nil => exact List.prefix_refl _
  | cons step steps ih =>
      unfold clear
      split
      · exact List.prefix_cons_inj step |>.mpr (ih _)
      · exact List.nil_prefix

/-- Behind steps that are clear, the next ones decide. -/
theorem clear_append {front : List String} (isClear : files.clear here front = front) (others : List String) :
    files.clear here (front ++ others) = front ++ files.clear (reach here front) others := by
  induction front generalizing here with
  | nil => rfl
  | cons step front ih =>
      unfold clear at isClear
      split at isClear
      · rename_i taken
        rw [List.cons_append, clear, if_pos taken, ih (List.cons.inj isClear).2]
        rfl
      · contradiction

theorem clear_append_of_ne {front : List String} (blocked : files.clear here front ≠ front) (others : List String) :
    files.clear here (front ++ others) = files.clear here front := by
  induction front generalizing here with
  | nil => exact absurd rfl blocked
  | cons step front ih =>
      unfold clear at blocked ⊢
      rw [List.cons_append]
      by_cases taken : files.passes here step
      · simp only [taken, if_true] at blocked ⊢
        rw [ih fun isClear => blocked (by rw [isClear])]
      · simp [taken]

theorem passes_congr {step : String} (same : files.shape? (advance here step) = some .file ↔
    after.shape? (advance here step) = some .file) : files.passes here step = after.passes here step := by
  by_cases notCurrent : step = "."
  · simp [passes, notCurrent]
  · by_cases notParent : step = ".."
    · simp [passes, notParent]
    · rw [advance_name notCurrent notParent] at same
      have sameFile : (files.shape? (here ++ [step]) != some .file) = (after.shape? (here ++ [step]) != some .file) := by
        rw [Bool.eq_iff_iff]
        simp [same]
      simp [passes, sameFile]

/-- What is clear depends on the files on the way only. -/
theorem clear_congr {steps : List String} (same : ∀ front, front <+: steps →
    (files.shape? (reach here front) = some .file ↔ after.shape? (reach here front) = some .file)) :
    files.clear here steps = after.clear here steps := by
  induction steps generalizing here with
  | nil => rfl
  | cons step steps ih =>
      have first : files.passes here step = after.passes here step := passes_congr (same [step] ⟨steps, rfl⟩)
      have rest : files.clear (advance here step) steps = after.clear (advance here step) steps := ih fun front isFront =>
        same (step :: front) (List.prefix_cons_inj step |>.mpr isFront)
      rw [clear, clear, first, rest]

theorem passes_of_directory {step : String} (isShort : IsShort step)
    (isDirectory : files.face? (advance here step) = some .directory) : files.passes here step = true := by
  obtain rfl | rfl | fits := isShort
  · rfl
  · rfl
  · by_cases notCurrent : step = "."
    · simp [passes, notCurrent]
    · by_cases notParent : step = ".."
      · simp [passes, notParent]
      · rw [advance_name notCurrent notParent, ← shape?_eq_directory] at isDirectory
        simp [passes, fits, isDirectory]

theorem Paved.clear {steps : List String} (paved : files.Paved here steps) : files.clear here steps = steps := by
  induction steps generalizing here with
  | nil => rfl
  | cons step steps ih =>
      rw [FileSystem.clear, if_pos (passes_of_directory paved.isShort paved.tail.start), ih paved.tail]

theorem passes_name {step : String} (notCurrent : step ≠ ".") (notParent : step ≠ "..") (here : List String) :
    files.passes here step = true ↔
      step.utf8ByteSize ≤ longestName ∧ files.shape? (here ++ [step]) ≠ some .file := by
  simp [passes, notCurrent, notParent]

theorem file_of_not_passes {step : String} (stops : files.passes here step = false)
    (fits : step.utf8ByteSize ≤ longestName) : files.shape? (here ++ [step]) = some .file := by
  simp only [passes, Bool.or_eq_false_iff, Bool.and_eq_false_imp, decide_eq_true_eq] at stops
  simpa using stops.2 fits

theorem isShort_of_passes {step : String} (taken : files.passes here step = true) : IsShort step := by
  by_cases notCurrent : step = "."
  · exact .inl notCurrent
  · by_cases notParent : step = ".."
    · exact .inr (.inl notParent)
    · exact .inr (.inr ((passes_name notCurrent notParent here).mp taken).1)

/-- A step that leads from a directory to none is a name that is missing, or cannot be taken. -/
theorem missing_or_barred (linkFree : files.LinkFree) {front : List String} {step : String} (paved : files.Paved here front)
    (stops : ¬ files.Paved here (front ++ [step])) :
    (step ≠ "." ∧ step ≠ ".." ∧ step.utf8ByteSize ≤ longestName ∧ files.shape? (reach here front ++ [step]) = none) ∨
      files.passes (reach here front) step = false := by
  cases taken : files.passes (reach here front) step with
  | false => exact .inr rfl
  | true =>
      have notCurrent : step ≠ "." := by
        rintro rfl
        exact stops paved.current
      have notParent : step ≠ ".." := by
        rintro rfl
        exact stops paved.parent
      obtain ⟨fits, noFile⟩ := (passes_name notCurrent notParent _).mp taken
      refine .inl ⟨notCurrent, notParent, fits, ?_⟩
      obtain missing | isFile | isDirectory := shape?_cases linkFree (reach here front ++ [step])
      · exact missing
      · exact absurd isFile noFile
      · refine absurd (paved.snoc (.inr (.inr fits)) ?_) stops
        rw [advance_name notCurrent notParent]
        exact shape?_eq_directory.mp isDirectory

theorem name_of_barred {step : String} (barred : files.passes here step = false) : step ≠ "." ∧ step ≠ ".." := by
  constructor <;> rintro rfl <;> simp [passes] at barred

/-- Where all that lies on a clear way is a directory by now, the way leads through directories. -/
theorem paved_of_clear {steps : List String} (isClear : files.clear here steps = steps)
    (made : ∀ front, front <+: steps → after.face? (reach here front) = some .directory) : after.Paved here steps := by
  induction steps generalizing here with
  | nil => exact .nil (made [] List.nil_prefix)
  | cons step steps ih =>
      unfold FileSystem.clear at isClear
      split at isClear
      · rename_i taken
        have rest := ih (List.cons.inj isClear).2 fun front isFront =>
          made (step :: front) (List.prefix_cons_inj step |>.mpr isFront)
        exact ⟨.through (made [] List.nil_prefix) (isShort_of_passes taken) rest.leads, rest.directory⟩
      · contradiction

def lacks (files : FileSystem) (here steps : List String) : Bool :=
  steps.inits.any fun front => files.shape? (reach here front) == none

theorem lacks_eq_true {steps : List String} :
    files.lacks here steps = true ↔ ∃ front, front <+: steps ∧ files.shape? (reach here front) = none := by
  simp [lacks, List.any_eq_true]

theorem Paved.not_lacks {steps : List String} (paved : files.Paved here steps) : files.lacks here steps = false := by
  rw [Bool.eq_false_iff]
  intro lacks
  obtain ⟨front, isFront, missing⟩ := lacks_eq_true.mp lacks
  rw [shape?_eq_none, paved.atFront isFront] at missing
  contradiction

/-- Why the directories of steps cannot be made, from a directory. A file in the way is found to exist when a directory
is to be made in its place, which is the case at the last step, and also where directories in front of it were missing. -/
def obstacle (files : FileSystem) (here steps : List String) : Option OsError :=
  match steps.drop (files.clear here steps).length with
  | [] => none
  | step :: rest =>
      if longestName < step.utf8ByteSize then some .nameTooLong
      else if rest.isEmpty || files.lacks here (files.clear here steps) then some .alreadyExists
      else some .notDirectory

theorem obstacle_of_clear {steps : List String} (isClear : files.clear here steps = steps) :
    files.obstacle here steps = none := by
  simp [obstacle, isClear]

theorem obstacle_of_stop {front rest : List String} {step : String}
    (isClear : files.clear here (front ++ step :: rest) = front) :
    files.obstacle here (front ++ step :: rest) = if longestName < step.utf8ByteSize then some .nameTooLong
      else if rest.isEmpty || files.lacks here front then some .alreadyExists else some .notDirectory := by
  simp [obstacle, isClear]

/-- Where steps are not clear, the step behind the clear ones is a name that is too long, or that names a file. -/
theorem exists_stop {steps : List String} (blocked : files.clear here steps ≠ steps) :
    ∃ step rest, steps = files.clear here steps ++ step :: rest ∧
      files.passes (reach here (files.clear here steps)) step = false := by
  induction steps generalizing here with
  | nil => exact absurd rfl blocked
  | cons step steps ih =>
      by_cases taken : files.passes here step
      · have further : files.clear here (step :: steps) = step :: files.clear (advance here step) steps := by
          rw [clear, if_pos taken]
        rw [further] at blocked ⊢
        obtain ⟨stop, rest, split, stops⟩ := ih fun isClear => blocked (by rw [isClear])
        refine ⟨stop, rest, by rw [List.cons_append, ← split], ?_⟩
        simpa [reach] using stops
      · have nothing : files.clear here (step :: steps) = [] := by
          rw [clear, if_neg taken]
        rw [nothing]
        exact ⟨step, steps, rfl, by simpa [reach] using taken⟩

theorem obstacle_eq_none {steps : List String} : files.obstacle here steps = none ↔ files.clear here steps = steps := by
  refine ⟨fun none => ?_, obstacle_of_clear⟩
  by_contra blocked
  obtain ⟨step, rest, split, -⟩ := exists_stop blocked
  rw [split, obstacle_of_stop (by rw [← split])] at none
  split at none
  · contradiction
  · split at none <;> contradiction

end FileSystem

end Companion
