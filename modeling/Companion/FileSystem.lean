import Companion.FilePath
import Companion.FileSystem.Node
import Companion.OsError

/-!
A tree of files and directories, and the operations on it. A path is resolved name by name, from the root of the tree
or, if it is relative, from the working directory; a symbolic link is replaced by its target, and at most forty links
are followed. A path that climbs above the root stays there.
-/

set_option autoImplicit false

namespace Companion

/-- A tree, the names that lead from its root to the working directory, and the places of the directories that may not
be listed. What is in such a directory can still be reached by its name. -/
structure FileSystem where
  root : Node
  working : List String
  closed : List (List String)

namespace FileSystem

/-- A tree without files whose root is the working directory. -/
def empty : FileSystem := ⟨.emptyDirectory, [], []⟩

/-- What stands at a path of names, without following links. -/
def get? (files : FileSystem) (names : List String) : Option Node :=
  files.root.get? names

def put (files : FileSystem) (names : List String) (node : Node) : FileSystem :=
  { files with root := node.put files.root names }

/-- Where a path leads: to a node, or to a name that is still free in a directory. -/
inductive Place where
  | taken (names : List String) (node : Node)
  | free (names : List String)

/-- How one passage over a path ends: at a place, or at a link whose target is to be followed from a directory and
then the rest of the path. -/
inductive Passage where
  | arrived (place : Place)
  | redirected (directory : List String) (target : String) (rest : List String)

def longestName : Nat := 255

def longestPath : Nat := 4095

/-- The texts between slashes that name something, the `.` included. -/
def stepsOf (text : String) : List String :=
  (FilePath.mk text).pieces.filter (· ≠ "")

inductive Purpose where
  /-- The entry itself, also where it is a link. -/
  | entry
  /-- What the entry leads to. -/
  | content
  /-- What the entry leads to, or a file to be made. -/
  | creation
  deriving DecidableEq, Repr

/-- Whether the text of a path ends in a slash, so that it can only name a directory. -/
def asksForDirectory (text : String) : Bool :=
  text.toList.getLast? == some '/'

def arrive (purpose : Purpose) (asksDirectory : Bool) (names : List String) (node : Node) : Except OsError Passage :=
  if purpose = .content ∧ asksDirectory ∧ !node.isDirectory then .error .notDirectory
  else .ok (.arrived (.taken names node))

/-- Walks from a directory along the steps of a path, up to the first link. A file cannot be made by a name with a
slash behind it, whatever the name leads to. -/
def descend (files : FileSystem) (purpose : Purpose) (asksDirectory : Bool) :
    List String → List String → Except OsError Passage
  | here, [] =>
      match files.get? here with
      | some node => arrive purpose asksDirectory here node
      | none => .error .noEntry
  | here, step :: steps =>
      match files.get? here with
      | some (.directory entries) =>
          if step = "." then descend files purpose asksDirectory here steps
          else if step = ".." then descend files purpose asksDirectory here.dropLast steps
          else if steps.isEmpty ∧ asksDirectory ∧ purpose = .creation then .error .isDirectory
          else if longestName < step.utf8ByteSize then .error .nameTooLong
          else
            match Node.entry? step entries with
            | none => if steps.isEmpty then .ok (.arrived (.free (here ++ [step]))) else .error .noEntry
            | some (.link target) =>
                if steps.isEmpty ∧ purpose = .entry then .ok (.arrived (.taken (here ++ [step]) (.link target)))
                else .ok (.redirected here target steps)
            | some _ => descend files purpose asksDirectory (here ++ [step]) steps
      | some _ => .error .notDirectory
      | none => .error .noEntry

/-- Follows a path through at most `links` further links. -/
def follow (files : FileSystem) (purpose : Purpose) :
    Nat → Bool → List String → List String → Except OsError Place
  | links, asksDirectory, here, steps =>
      match files.descend purpose asksDirectory here steps with
      | .error reason => .error reason
      | .ok (.arrived place) => .ok place
      | .ok (.redirected directory target rest) =>
          match links with
          | 0 => .error .tooManyLinks
          | links + 1 =>
              if target.isEmpty then .error .noEntry
              else
                let start := if (FilePath.mk target).isAbsolute then [] else directory
                let asksDirectory := asksDirectory || (rest.isEmpty && asksForDirectory target)
                files.follow purpose links asksDirectory start (stepsOf target ++ rest)

def startOf (files : FileSystem) (path : FilePath) : List String :=
  if path.isAbsolute then [] else files.working

def resolve (files : FileSystem) (purpose : Purpose) (path : FilePath) : Except OsError Place :=
  if path.text.toList.contains '\x00' then .error .nulInName
  else if path.text.isEmpty then .error .noEntry
  else if longestPath < path.text.utf8ByteSize then .error .nameTooLong
  else files.follow purpose 40 (asksForDirectory path.text) (files.startOf path) (stepsOf path.text)

def isDirectory (files : FileSystem) (path : FilePath) : Bool :=
  match files.resolve .content path with
  | .ok (.taken _ node) => node.isDirectory
  | _ => false

def isFile (files : FileSystem) (path : FilePath) : Bool :=
  match files.resolve .content path with
  | .ok (.taken _ (.file _)) => true
  | _ => false

def readOctets (files : FileSystem) (path : FilePath) : Except OsError ByteArray :=
  match files.resolve .content path with
  | .error reason => .error reason
  | .ok (.taken _ (.file content)) => .ok content
  | .ok (.taken _ _) => .error .isDirectory
  | .ok (.free _) => .error .noEntry

def readText (files : FileSystem) (path : FilePath) : Except OsError String :=
  match files.readOctets path with
  | .error reason => .error reason
  | .ok content =>
      match String.fromUTF8? content with
      | some text => .ok text
      | none => .error .notUtf8

def list (files : FileSystem) (path : FilePath) : Except OsError (List (String × Node)) :=
  match files.resolve .content path with
  | .error reason => .error reason
  | .ok (.taken names (.directory entries)) => if names ∈ files.closed then .error .permissionDenied else .ok entries
  | .ok (.taken _ _) => .error .notDirectory
  | .ok (.free _) => .error .noEntry

def makeDirectory (files : FileSystem) (path : FilePath) : Except OsError FileSystem :=
  match files.resolve .entry path with
  | .error reason => .error reason
  | .ok (.taken _ _) => .error .alreadyExists
  | .ok (.free names) => .ok (files.put names .emptyDirectory)

/-- Makes a directory, and before it those of its parents that are missing. `depth` bounds how many parents are
visited. The tree is returned also on failure, with the parents that were made by then. -/
def makeDirectoriesWithin : Nat → FilePath → FileSystem → FileSystem × Except OsError Unit
  | 0, _, files => (files, .error .noEntry)
  | depth + 1, path, files =>
      if path.text.isEmpty then (files, .ok ())
      else
        match files.makeDirectory path with
        | .ok made => (made, .ok ())
        | .error .noEntry =>
            match path.parent? with
            | none => (files, .error .noEntry)
            | some parent =>
                match makeDirectoriesWithin depth parent files with
                | (made, .error reason) => (made, .error reason)
                | (made, .ok ()) =>
                    match made.makeDirectory path with
                    | .ok last => (last, .ok ())
                    | .error reason => (made, if made.isDirectory path then .ok () else .error reason)
        | .error reason => (files, if files.isDirectory path then .ok () else .error reason)

def makeDirectories (files : FileSystem) (path : FilePath) : FileSystem × Except OsError Unit :=
  makeDirectoriesWithin (path.components.length + 1) path files

/-- Where a file that is opened for writing stands. -/
inductive Target where
  | existing (names : List String) (content : ByteArray)
  | fresh (names : List String)

def target (files : FileSystem) (path : FilePath) : Except OsError Target :=
  match files.resolve .creation path with
  | .error reason => .error reason
  | .ok (.taken names (.file content)) => .ok (.existing names content)
  | .ok (.taken _ _) => .error .isDirectory
  | .ok (.free names) => .ok (.fresh names)

def write (files : FileSystem) (path : FilePath) (text : String) : Except OsError FileSystem :=
  match files.target path with
  | .error reason => .error reason
  | .ok (.existing names _) | .ok (.fresh names) => .ok (files.put names (.file text.toUTF8))

/-- Opens a file for appending, which makes it if it is not there. The result names the file. -/
def openAppend (files : FileSystem) (path : FilePath) : Except OsError (FileSystem × List String) :=
  match files.target path with
  | .error reason => .error reason
  | .ok (.existing names _) => .ok (files, names)
  | .ok (.fresh names) => .ok (files.put names (.file ByteArray.empty), names)

def append (files : FileSystem) (names : List String) (text : String) : FileSystem :=
  match files.get? names with
  | some (.file content) => files.put names (.file (content ++ text.toUTF8))
  | _ => files

end FileSystem

end Companion
