import Companion.Proofs.FileSystem.Directories

set_option autoImplicit false

namespace Companion.FileSystem

variable {files : FileSystem} {path : FilePath} {purpose : Purpose}

def flaw? (path : FilePath) : Option OsError :=
  if '\x00' ∈ path.text.toList then some .nulInName
  else if longestPath < path.text.utf8ByteSize then some .nameTooLong
  else none

theorem admissible_of_flaw? (nonempty : path.text ≠ "") (flawless : flaw? path = none) : Admissible path := by
  unfold flaw? at flawless
  split at flawless
  · contradiction
  · rename_i noNull
    split at flawless
    · contradiction
    · rename_i notLong
      exact ⟨noNull, nonempty, Nat.le_of_not_lt notLong⟩

theorem resolve_of_flaw? (files : FileSystem) (nonempty : path.text ≠ "") {cause : OsError} (flawed : flaw? path = some cause)
    (purpose : Purpose) : files.resolve purpose path = .error cause ∧ cause ≠ .noEntry := by
  have notEmpty : path.text.isEmpty = false := by simpa using nonempty
  unfold flaw? at flawed
  unfold resolve
  by_cases null : '\x00' ∈ path.text.toList
  · have found : path.text.toList.contains '\x00' = true := by simpa using null
    rw [if_pos null] at flawed
    obtain rfl : OsError.nulInName = cause := Option.some.inj flawed
    rw [if_pos found]
    exact ⟨rfl, by simp⟩
  · rw [if_neg null] at flawed
    split at flawed
    · rename_i isLong
      obtain rfl : OsError.nameTooLong = cause := Option.some.inj flawed
      simp [null, notEmpty, isLong]
    · contradiction

theorem makeDirectory_of_unresolved {reason : OsError} (unresolved : files.resolve .entry path = .error reason) :
    files.makeDirectory path = .error reason := by
  unfold makeDirectory
  rw [unresolved]

theorem not_isDirectory_of_unresolved {reason : OsError} (unresolved : files.resolve .content path = .error reason) :
    files.isDirectory path = false := by
  unfold isDirectory
  rw [unresolved]

theorem makeDirectories_of_refused {reason : OsError} (nonempty : path.text ≠ "")
    (refused : files.makeDirectory path = .error reason) (notMissing : reason ≠ .noEntry)
    (noDirectory : files.isDirectory path = false) : files.makeDirectories path = (files, .error reason) := by
  unfold makeDirectories
  rw [makeDirectoriesWithin_finish _ nonempty (by simpa [refused] using notMissing), finish_of_refused refused noDirectory]

theorem descend_of_no_start {here steps : List String} (missing : files.shape? here = none) (asksDirectory : Bool) :
    files.descend purpose asksDirectory here steps = .error .noEntry := by
  have nothing : files.get? here = none := by
    rwa [shape?_eq_none, face?_eq_map, Option.map_eq_none_iff] at missing
  cases steps <;> simp [descend, nothing]

/-- Where the start of a path is missing, no directory is made. The induction goes from the path to its parents, which
start at the same place. -/
theorem makeDirectoriesWithin_of_no_start (depth : Nat) {path : FilePath} (admissible : Admissible path)
    (missing : files.shape? (files.startOf path) = none) :
    makeDirectoriesWithin depth path files = (files, .error .noEntry) := by
  induction depth generalizing path with
  | zero => rfl
  | succ depth ih =>
      have refused : files.makeDirectory path = .error .noEntry :=
        makeDirectory_of_unresolved (resolve_of_error admissible (descend_of_no_start missing _))
      have noDirectory : files.isDirectory path = false :=
        not_isDirectory_of_unresolved (resolve_of_error admissible (descend_of_no_start missing _))
      cases isParent : path.parent? with
      | none => simp [makeDirectoriesWithin, admissible.nonempty, refused, isParent]
      | some parent =>
          rw [makeDirectoriesWithin_parent depth admissible.nonempty refused isParent]
          obtain empty | parentAdmissible := admissible.parent isParent
          · cases depth with
            | zero => rfl
            | succ depth =>
                rw [makeDirectoriesWithin_empty depth empty]
                exact finish_of_refused refused noDirectory
          · have sameStart : files.startOf parent = files.startOf path :=
              startOf_congr rfl (FilePath.steps_parent isParent).2
            rw [ih parentAdmissible (sameStart ▸ missing)]

def barred (steps : List String) : OsError :=
  if steps.isEmpty then .alreadyExists else .notDirectory

theorem makeDirectories_of_file_start (admissible : Admissible path)
    (isFile : files.shape? (files.startOf path) = some .file) :
    files.makeDirectories path = (files, .error (barred (stepsOf path.text))) := by
  obtain ⟨content, face⟩ := shape?_eq_file.mp isFile
  have found := get?_of_face?_file face
  cases steps : stepsOf path.text with
  | nil =>
      have arrives : files.resolve .entry path = .ok (.taken (files.startOf path) (.file content)) :=
        resolve_of_arrived admissible (by simp [steps, descend, found, arrive])
      have refused : files.makeDirectory path = .error .alreadyExists := by
        unfold makeDirectory
        rw [arrives]
      have noDirectory : files.isDirectory path = false := by
        unfold isDirectory
        rw [resolve_eq admissible, follow, steps, descend, found]
        by_cases asks : asksForDirectory path.text = true <;> simp [arrive, asks, Node.isDirectory]
      exact makeDirectories_of_refused admissible.nonempty refused (by simp [barred]) noDirectory
  | cons step rest =>
      have blocked : ∀ purpose asksDirectory, files.descend purpose asksDirectory (files.startOf path)
          (stepsOf path.text) = .error .notDirectory := fun purpose asksDirectory => by simp [steps, descend, found]
      have refused : files.makeDirectory path = .error .notDirectory :=
        makeDirectory_of_unresolved (resolve_of_error admissible (blocked _ _))
      have noDirectory : files.isDirectory path = false :=
        not_isDirectory_of_unresolved (resolve_of_error admissible (blocked _ _))
      exact makeDirectories_of_refused admissible.nonempty refused (by simp [barred]) noDirectory

def refusal (files : FileSystem) (path : FilePath) : Option OsError :=
  if path.text = "" then none
  else match flaw? path with
    | some cause => some cause
    | none =>
        match files.shape? (files.startOf path) with
        | none => some .noEntry
        | some .directory => files.obstacle (files.startOf path) (stepsOf path.text)
        | some _ => some (barred (stepsOf path.text))

/-- The places at which making the directory of a path leaves directories. -/
structure OnWay (files : FileSystem) (path : FilePath) (names : List String) : Prop where
  flawless : flaw? path = none
  start : files.face? (files.startOf path) = some .directory
  onClear : files.OnClear (files.startOf path) (stepsOf path.text) names

theorem opens_self {places : List String → Prop} (nowhere : ∀ names, files.face? names = none → ¬ places names) :
    files.Opens places files :=
  ⟨rfl, fun names missing isPlace => absurd isPlace (nowhere names missing), fun _ _ => rfl⟩

/-- Making a directory makes what is missing on the way, and it is refused for the reason given and no other. -/
theorem makeDirectories_opens (linkFree : files.LinkFree) (trimmed : path.Trimmed) :
    files.Opens (files.OnWay path) (files.makeDirectories path).1 ∧
      (files.makeDirectories path).2 = verdict (files.refusal path) := by
  unfold refusal
  by_cases empty : path.text = ""
  · have nothing : files.makeDirectories path = (files, .ok ()) := makeDirectoriesWithin_empty _ empty
    rw [nothing, if_pos empty]
    refine ⟨opens_self fun names missing onWay => ?_, rfl⟩
    obtain ⟨front, isFront, rfl⟩ := onWay.onClear
    rw [empty, FilePath.steps_empty, clear, List.prefix_nil] at isFront
    have start := onWay.start
    rw [isFront] at missing
    rw [show files.startOf path = reach (files.startOf path) [] from rfl, missing] at start
    contradiction
  rw [if_neg empty]
  cases flawed : flaw? path with
  | some cause =>
      obtain ⟨refused, notMissing⟩ := resolve_of_flaw? files empty flawed .entry
      obtain ⟨unresolved, -⟩ := resolve_of_flaw? files empty flawed .content
      rw [makeDirectories_of_refused empty (makeDirectory_of_unresolved refused) notMissing
        (not_isDirectory_of_unresolved unresolved)]
      refine ⟨opens_self fun names _ onWay => ?_, rfl⟩
      have flawless := onWay.flawless
      rw [flawed] at flawless
      contradiction
  | none =>
      have admissible := admissible_of_flaw? empty flawed
      obtain missing | isFile | isDirectory := shape?_cases linkFree (files.startOf path)
      · have nothing : files.makeDirectories path = (files, .error .noEntry) :=
          makeDirectoriesWithin_of_no_start _ admissible missing
        rw [nothing, missing]
        refine ⟨opens_self fun names _ onWay => ?_, rfl⟩
        have start := onWay.start
        rw [shape?_eq_none.mp missing] at start
        contradiction
      · rw [makeDirectories_of_file_start admissible isFile, isFile]
        refine ⟨opens_self fun names _ onWay => ?_, rfl⟩
        have start := shape?_eq_directory.mpr onWay.start
        rw [isFile] at start
        contradiction
      · have start := shape?_eq_directory.mp isDirectory
        obtain ⟨opens, outcome⟩ := makeDirectoriesWithin_opens linkFree start trimmed (.inr admissible)
          (Nat.lt_succ_of_le (moves_le_components path))
        rw [isDirectory]
        exact ⟨opens.congr fun names => ⟨fun onClear => ⟨flawed, start, onClear⟩, OnWay.onClear⟩, outcome⟩

end Companion.FileSystem
