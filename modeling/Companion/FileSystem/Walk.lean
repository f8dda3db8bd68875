import Companion.FileSystem

/-!
Walking a directory tree: what stands below a directory, a directory's entries in the order of their names, and each
directory in front of what is in it. Links below the directory are not followed. A walk ends at a directory that cannot
be listed.
-/

set_option autoImplicit false

namespace Companion

/-- Why a walk ends early: the directory that cannot be listed, and the reason. -/
structure WalkError where
  path : FilePath
  cause : OsError
  deriving DecidableEq, Repr

def WalkError.message (error : WalkError) : String :=
  "IO error for operation on " ++ error.path.text ++ ": " ++ error.cause.message

/-- The regular files that a walk comes to, and why it ends early, if it does. -/
structure Walk where
  files : List FilePath
  error : Option WalkError
  deriving DecidableEq, Repr

namespace FileSystem

def nodeAt? (files : FileSystem) (path : FilePath) : Option Node :=
  match files.resolve .content path with
  | .ok (.taken _ node) => some node
  | _ => none

def stopsBelow (files : FileSystem) (root : FilePath) : List (List String × Node.Face) :=
  match files.nodeAt? root with
  | some node => node.stops
  | none => []

def along (files : FileSystem) (root : FilePath) : List (List String × Node.Face) → Walk
  | [] => ⟨[], none⟩
  | (names, .file _) :: stops =>
      let further := files.along root stops
      ⟨root.below names :: further.files, further.error⟩
  | (_, .link _) :: stops => files.along root stops
  | (names, .directory) :: stops =>
      match files.list (root.below names) with
      | .error cause => ⟨[], some ⟨root.below names, cause⟩⟩
      | .ok _ => files.along root stops

def walk (files : FileSystem) (root : FilePath) : Walk :=
  files.along root (files.stopsBelow root)

end FileSystem

end Companion
