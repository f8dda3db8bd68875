import Companion.FileSystem
import Companion.Log.Config
import Companion.Text.Quoted
import Companion.Text.Utf8

/-!
Where the generator works: a tree of files, the two output streams, and the log. Every effect of a round, of a build
script and of the command line is a change of this value.
-/

set_option autoImplicit false

namespace Companion

/-- Where events are written to. An open log file is known by its place in the tree. -/
inductive LogTarget where
  | nowhere
  | standardError
  | file (names : List String)
  deriving DecidableEq, Repr

structure LogError where
  path : FilePath
  cause : OsError
  deriving DecidableEq, Repr

def LogError.message (error : LogError) : String :=
  "failed to open log file " ++ Text.quoted error.path.text ++ ": " ++ error.cause.message

structure Logger where
  filter : Log.Filter
  target : LogTarget
  deriving DecidableEq, Repr

def Logger.silent : Logger := ⟨.ofLevel .off, .nowhere⟩

/-- A tree of files, what was printed, and the log, with the text in front of each of its lines. -/
structure Workspace where
  files : FileSystem
  output : String
  errors : String
  logger : Logger
  stamp : String

namespace Workspace

/-- A workspace in which nothing was printed and nothing is logged. -/
def ofFiles (files : FileSystem) : Workspace := ⟨files, "", "", .silent, ""⟩

def print (work : Workspace) (line : String) : Workspace :=
  { work with output := work.output ++ line ++ "\n" }

def complain (work : Workspace) (line : String) : Workspace :=
  { work with errors := work.errors ++ line ++ "\n" }

def log (work : Workspace) (event : Log.Event) : Workspace :=
  if work.logger.filter.admits event then
    let line := work.stamp ++ event.line
    match work.logger.target with
    | .nowhere => work
    | .standardError => { work with errors := work.errors ++ line }
    | .file names => { work with files := work.files.append names line }
  else work

def logAll (work : Workspace) (events : List Log.Event) : Workspace :=
  events.foldl log work

def openAppendFile (files : FileSystem) (path : FilePath) :
    FileSystem × Except OsError (List String) :=
  let directories : FileSystem × Except OsError Unit :=
    match path.parent? with
    | some parent => if parent.text.isEmpty then (files, .ok ()) else files.makeDirectories parent
    | none => (files, .ok ())
  match directories with
  | (files, .error reason) => (files, .error reason)
  | (files, .ok ()) =>
      match files.openAppend path with
      | .error reason => (files, .error reason)
      | .ok (files, names) => (files, .ok names)

def startLog (work : Workspace) (config : Log.Config) (environment : Option String) :
    Workspace × Except LogError Unit :=
  let filter := config.filter environment
  match config.file with
  | none => ({ work with logger := ⟨filter, .standardError⟩ }, .ok ())
  | some path =>
      match openAppendFile work.files path with
      | (files, .ok names) => ({ work with files := files, logger := ⟨filter, .file names⟩ }, .ok ())
      | (files, .error cause) => ({ work with files := files }, .error ⟨path, cause⟩)

/-- The octets of a file that was put into the tree before the work began, by its path of names. -/
abbrev Placed := List (List String × ByteArray)

/-- Puts a file, a link or an empty directory at a path before the work begins, with the directories that lead to it.
The second part of the result remembers where a file was put. -/
def place (files : FileSystem) (path : FilePath) (node : Node) : FileSystem × Placed :=
  let files := match path.parent? with
    | some parent => (files.makeDirectories parent).1
    | none => files
  match node with
  | .directory _ => ((files.makeDirectories path).1, [])
  | .link _ =>
      match files.resolve .entry path with
      | .ok (.free names) => (files.put names node, [])
      | .ok (.taken names old) => (if old.isDirectory then files else files.put names node, [])
      | .error _ => (files, [])
  | .file content =>
      match files.target path with
      | .ok (.fresh names) | .ok (.existing names _) => (files.put names node, [(names, content)])
      | .error _ => (files, [])

/-- The regular files that the work made or changed: their paths and texts, in the order of the paths. Files that were
put there before and still hold the same are left out. -/
def produced (files : FileSystem) (placed : Placed) : List (String × String) :=
  let kept := files.root.files.filter fun found =>
    !(placed.any fun old => old.1 == found.1 && old.2 == found.2)
  let shown := kept.map fun found => (String.intercalate "/" found.1, Text.ofOctets found.2)
  shown.mergeSort fun left right => left.1 ≤ right.1

end Workspace

end Companion
