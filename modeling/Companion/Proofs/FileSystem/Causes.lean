import Companion.Emission
import Companion.Proofs.Text.Lines

set_option autoImplicit false

namespace Companion

def OsError.IsKnown : OsError → Prop
  | worded _ => False
  | _ => True

theorem OsError.isOneLine_message {cause : OsError} (known : cause.IsKnown) : Text.IsOneLine cause.message := by
  cases cause with
  | worded text => exact known.elim
  | _ => decide

namespace FileSystem

variable {files : FileSystem} {path : FilePath} {purpose : Purpose} {cause : OsError}

theorem isKnown_of_arrive {asksDirectory : Bool} {names : List String} {node : Node}
    (failed : arrive purpose asksDirectory names node = .error cause) : cause.IsKnown := by
  unfold arrive at failed
  split at failed <;> cases failed
  trivial

theorem isKnown_of_descend {asksDirectory : Bool} {here steps : List String}
    (failed : files.descend purpose asksDirectory here steps = .error cause) : cause.IsKnown := by
  induction steps generalizing here with
  | nil =>
      unfold descend at failed
      split at failed
      · exact isKnown_of_arrive failed
      · cases failed
        trivial
  | cons step steps ih =>
      unfold descend at failed
      repeat' split at failed
      all_goals first
        | exact ih failed
        | cases failed <;> trivial

theorem isKnown_of_follow {links : Nat} {asksDirectory : Bool} {here steps : List String}
    (failed : files.follow purpose links asksDirectory here steps = .error cause) : cause.IsKnown := by
  induction links generalizing asksDirectory here steps with
  | zero =>
      unfold follow at failed
      split at failed
      · rename_i reason stopped
        exact isKnown_of_descend (Except.error.inj failed ▸ stopped)
      · cases failed
      · cases failed
        trivial
  | succ links ih =>
      unfold follow at failed
      split at failed
      · rename_i reason stopped
        exact isKnown_of_descend (Except.error.inj failed ▸ stopped)
      · cases failed
      · dsimp only at failed
        split at failed
        · cases failed
          trivial
        · exact ih failed

theorem isKnown_of_resolve (failed : files.resolve purpose path = .error cause) : cause.IsKnown := by
  unfold resolve at failed
  repeat' split at failed
  all_goals first
    | exact isKnown_of_follow failed
    | cases failed; trivial

theorem isKnown_of_makeDirectory (failed : files.makeDirectory path = .error cause) : cause.IsKnown := by
  unfold makeDirectory at failed
  split at failed
  · rename_i reason unresolved
    exact isKnown_of_resolve (Except.error.inj failed ▸ unresolved)
  · cases failed
    trivial
  · cases failed

theorem isKnown_of_told {made : FileSystem} {reason : OsError} (unmade : made.makeDirectory path = .error reason)
    (told : (if made.isDirectory path then Except.ok () else .error reason) = .error cause) : cause.IsKnown := by
  split at told
  · cases told
  · exact isKnown_of_makeDirectory (Except.error.inj told ▸ unmade)

theorem isKnown_of_makeDirectoriesWithin {depth : Nat}
    (failed : (makeDirectoriesWithin depth path files).2 = .error cause) : cause.IsKnown := by
  induction depth generalizing path with
  | zero =>
      cases failed
      trivial
  | succ depth ih =>
      unfold makeDirectoriesWithin at failed
      split at failed
      · cases failed
      split at failed
      · cases failed
      · split at failed
        · cases failed
          trivial
        · rename_i parent _
          split at failed
          · rename_i above
            cases failed
            exact ih (by rw [above])
          · split at failed
            · cases failed
            · rename_i unmade
              exact isKnown_of_told unmade failed
      · rename_i unmade
        exact isKnown_of_told unmade failed

theorem isKnown_of_makeDirectories (failed : (files.makeDirectories path).2 = .error cause) : cause.IsKnown :=
  isKnown_of_makeDirectoriesWithin failed

theorem isKnown_of_write {text : String} (failed : files.write path text = .error cause) : cause.IsKnown := by
  unfold write at failed
  split at failed
  · rename_i reason untargeted
    obtain rfl := Except.error.inj failed
    unfold target at untargeted
    split at untargeted
    · rename_i reason unresolved
      exact isKnown_of_resolve (Except.error.inj untargeted ▸ unresolved)
    · cases untargeted
    · cases untargeted
      trivial
    · cases untargeted
  · cases failed
  · cases failed

end FileSystem

/-- What is said of a companion that could not be written is one line. -/
theorem CompanionType.isOneLine_of_emit {type : CompanionType} {language : Language} {root : FilePath}
    {files : FileSystem} {error : GenerateError} (failed : (type.emit language root files).2 = .error error) :
    Text.IsOneLine error.message := by
  have told : ∀ {front : String} {path : FilePath} {cause : OsError}, Text.IsOneLine front → cause.IsKnown →
      Text.IsOneLine (front ++ Text.quoted path.text ++ ": " ++ cause.message) := fun oneLine known => by
    simp only [Text.isOneLine_append]
    exact ⟨⟨⟨oneLine, Text.isOneLine_quoted _⟩, by decide⟩, OsError.isOneLine_message known⟩
  unfold emit at failed
  dsimp only at failed
  split at failed
  · rename_i unprepared
    unfold prepareDirectory at unprepared
    split at unprepared
    · cases unprepared
    · split at unprepared
      · cases unprepared
      · rename_i unmade
        cases failed
        cases unprepared
        exact told (by decide) (FileSystem.isKnown_of_makeDirectories (by rw [unmade]))
  · split at failed
    · cases failed
    · rename_i unwritten
      cases failed
      exact told (by decide) (FileSystem.isKnown_of_write unwritten)

end Companion
