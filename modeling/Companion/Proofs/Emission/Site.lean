import Companion.Proofs.Emission.Approach
import Companion.Proofs.Emission.Barred

/-!
Where an output root leads. If no directory stands there, its steps come to a free name, below which companions can be
written, or to something that bars the way.
-/

set_option autoImplicit false

namespace Companion

open FileSystem (Approach Plot stepsOf)

def slashes (count : Nat) : String :=
  String.ofList (List.replicate count '/')

theorem slashes_succ (count : Nat) : slashes (count + 1) = slashes count ++ ("/" ++ "") := by
  apply String.toList_injective
  simp [slashes, List.replicate_succ']

@[simp] theorem utf8ByteSize_slashes (count : Nat) : (slashes count).utf8ByteSize = count := by
  induction count with
  | zero => rfl
  | succ count ih =>
      have one : ("/" ++ "").utf8ByteSize = 1 := by decide
      rw [slashes_succ, String.utf8ByteSize_append, ih, one]

theorem isLead_slashes (count : Nat) : FilePath.IsLead (slashes count) := by
  cases count with
  | zero => exact .inl rfl
  | succ count => exact .inr ⟨slashes count, slashes_succ count⟩

@[simp] theorem steps_slashes (count : Nat) : stepsOf (slashes count) = [] := by
  induction count with
  | zero => exact FilePath.steps_empty
  | succ count ih => rw [slashes_succ, FilePath.steps_append_slash, ih, FilePath.steps_empty, List.append_nil]

/-- A text that says something, but has no steps, is of slashes alone. -/
theorem FilePath.isAbsolute_of_noSteps {path : FilePath} (nonempty : path.text ≠ "") (noSteps : stepsOf path.text = []) :
    path.isAbsolute = true := by
  have allEmpty : ∀ piece ∈ path.pieces, piece = "" := by
    simpa [stepsOf] using List.filter_eq_nil_iff.mp noSteps
  rw [isAbsolute_iff]
  cases whole : path.pieces with
  | nil => exact absurd whole path.pieces_ne_nil
  | cons piece others =>
      rw [whole] at allEmpty
      obtain rfl := allEmpty piece List.mem_cons_self
      refine ⟨others, ?_, rfl⟩
      rintro rfl
      exact nonempty (by rw [← path.intercalate_pieces, whole]; rfl)

namespace FileSystem

variable {files : FileSystem} {root : FilePath}

/-- What stands where steps lead from the directory in which a path starts, links followed. -/
def standing? (files : FileSystem) (path : FilePath) (steps : List String) : Option Node :=
  match files.follow .content 40 false (files.startOf path) steps with
  | .ok (.taken _ node) => some node
  | _ => none

/-- Whether an output root is still to be made: no directory stands there, and each `..` of it leaves something that
stands. -/
structure Vacant (files : FileSystem) (root : FilePath) : Prop where
  absent : ∀ entries, files.standing? root (stepsOf root.text) ≠ some (.directory entries)
  settled : ∀ front rest, stepsOf root.text = front ++ ".." :: rest → files.standing? root front ≠ none

theorem root_of_directory {names : List String} (isDirectory : files.face? names = some .directory) :
    files.face? [] = some .directory := by
  cases names with
  | nil => exact isDirectory
  | cons name others =>
      rw [← List.nil_append (name :: others)] at isDirectory
      exact directory_of_behind isDirectory

namespace Enters

variable {links left : Nat} {here steps place : List String}

theorem isDirectory (enters : files.Enters links here steps left place)
    (start : steps = [] → files.face? here = some .directory) : files.face? place = some .directory := by
  induction enters with
  | here links here => exact start rfl
  | through _ _ next _ ih => exact ih fun _ => next
  | @along _ _ here _ _ _ target isDirectory _ _ _ _ _ _ ih =>
      refine ih fun _ => ?_
      unfold linkStart
      split
      · exact root_of_directory isDirectory
      · exact isDirectory

theorem follow_whole (enters : files.Enters links here steps left place) {entries : List (String × Node)}
    (isPlace : files.get? place = some (.directory entries)) (asksDirectory : Bool) :
    files.follow .content links asksDirectory here steps = .ok (.taken place (.directory entries)) := by
  induction enters generalizing asksDirectory with
  | here links here =>
      unfold FileSystem.follow
      rw [descend_nil isPlace]
  | @through links _ _ _ _ _ isDirectory isShort next _ ih =>
      exact (follow_congr links (descend_through (by simp) isDirectory isShort next _)).trans (ih isPlace asksDirectory)
  | @along links _ _ _ _ _ _ isDirectory notCurrent notParent fits isLink nonempty _ ih =>
      rw [follow_link (by simp) isDirectory notCurrent notParent fits isLink nonempty (by simp)]
      exact ih isPlace _

end Enters

theorem IsFree.entry?_eq_none {place : List String} {step : String} (isFree : files.IsFree place step)
    {entries : List (String × Node)} (found : files.get? place = some (.directory entries)) :
    Node.entry? step entries = none := by
  have nothing := isFree.missing
  rwa [face?_eq_map, get?_append_singleton found, Option.map_eq_none_iff] at nothing

/-- A name that is missing from the directory that steps enter does not stand. -/
theorem standing?_of_missing {left : Nat} {front place : List String} {step : String}
    (enters : files.Enters 40 (files.startOf root) front left place) (isFree : files.IsFree place step)
    (rest : List String) : files.standing? root (front ++ step :: rest) = none := by
  obtain ⟨entries, found⟩ := exists_directory_of_face? isFree.isDirectory
  unfold standing?
  rw [enters.follow (by simp) (by simp), follow, descend_name (by simp) found isFree.notCurrent isFree.notParent,
    if_neg (Nat.not_lt.mpr isFree.fits), isFree.entry?_eq_none found]
  cases rest <;> rfl

/-- Where an output root leads, if no directory stands there: it is no path, or something bars the way, or there is a free
name, which the rest of the root begins with. -/
inductive Site (files : FileSystem) (root : FilePath) : Prop
  | null (inside : '\x00' ∈ root.text.toList)
  | barred (front : List String) (step : String) (stops : files.Stops root front step)
  | plot (plot : Plot) (lead base : String) (isFiles : plot.files = files)
      (approach : Approach plot lead (slashes lead.utf8ByteSize)) (behind : plot.Behind base)
      (path : root = ⟨lead ++ base⟩)

theorem Vacant.site (vacant : files.Vacant root) (isRoot : files.face? [] = some .directory) (nonempty : root.text ≠ "") :
    files.Site root := by
  by_cases null : '\x00' ∈ root.text.toList
  · exact .null null
  obtain ⟨left, place, enters⟩ | ⟨front, step, rest, left, place, along, enters, stops⟩ :=
    files.enters_or_stops 40 (files.startOf root) (stepsOf root.text)
  · have start : stepsOf root.text = [] → files.face? (files.startOf root) = some .directory := by
      intro noSteps
      rw [startOf, FilePath.isAbsolute_of_noSteps nonempty noSteps]
      exact isRoot
    obtain ⟨entries, found⟩ := exists_directory_of_face? (enters.isDirectory start)
    have stands : files.standing? root (stepsOf root.text) = some (.directory entries) := by
      rw [standing?, enters.follow_whole found]
    exact absurd stands (vacant.absent entries)
  · by_cases isFree : files.IsFree place step
    · obtain ⟨lead, base, pieces, text, isLead, leadSteps, basePieces, others⟩ := FilePath.exists_lead along
      obtain ⟨entries, found⟩ := exists_directory_of_face? isFree.isDirectory
      have someStep : step ≠ "" := by
        have member : step ∈ stepsOf root.text := by simp [along]
        simpa using (List.mem_filter.mp member).2
      have isPiece : step ∈ (FilePath.mk base).pieces := by simp [basePieces]
      have relative : (FilePath.mk base).isAbsolute = false := by
        rw [Bool.eq_false_iff, ne_eq, FilePath.isAbsolute_iff, basePieces]
        rintro ⟨_, -, same⟩
        exact someStep (List.cons.inj same).1
      have start : files.startOf ⟨lead⟩ = files.startOf root := by
        refine (startOf_congr rfl ?_).symm
        rw [← isLead.isAbsolute relative, ← text]
      refine .plot ⟨files, place, step, entries, found, isFree.entry?_eq_none found⟩ lead base rfl {
        isLead
        slashesLead := isLead_slashes _
        size := utf8ByteSize_slashes _
        null := fun inside => null (by simp [text, inside])
        slashesNull := by simp [slashes]
        noSteps := steps_slashes _
        isEntry := ⟨⟨someStep, FilePath.slashFree_of_mem_pieces isPiece⟩, isFree.notCurrent, isFree.notParent⟩
        enters := ⟨left, by rwa [start, leadSteps]⟩ } ⟨pieces, basePieces, fun back => ?_⟩ (by rw [← text])
      have inRest : ".." ∈ rest := others ▸ List.mem_filter.mpr ⟨back, by decide⟩
      obtain ⟨behind, further, split⟩ := List.append_of_mem inRest
      refine vacant.settled (front ++ step :: behind) further (by simp [along, split]) ?_
      exact standing?_of_missing enters isFree behind
    · exact .barred front step ⟨⟨rest, along⟩, left, place, enters, stops, isFree⟩

end FileSystem

end Companion
