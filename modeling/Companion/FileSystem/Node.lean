/-!
A directory tree as a value: regular files, symbolic links and directories. The entries of a directory are kept in
the order of their names. Trees are read and changed along a path of names, by recursion on that path. Names are texts:
those that are no UTF-8 are left out, so nothing is lost where a name is shown or becomes part of a namespace.
-/

set_option autoImplicit false

namespace Companion

inductive Node where
  | file (content : ByteArray)
  | link (target : String)
  | directory (entries : List (String × Node))

namespace Node

def emptyDirectory : Node := directory []

/-- What can be seen of a node without going inside. -/
inductive Face where
  | file (content : ByteArray)
  | link (target : String)
  | directory

def face : Node → Face
  | file content => .file content
  | link target => .link target
  | directory _ => .directory

def isDirectory : Node → Bool
  | directory _ => true
  | _ => false

def entry? (name : String) : List (String × Node) → Option Node
  | [] => none
  | (key, node) :: others => if key = name then some node else entry? name others

/-- The entries with one of them set. A new name goes in front of the first greater one. -/
def setEntry (name : String) (node : Node) : List (String × Node) → List (String × Node)
  | [] => [(name, node)]
  | (key, old) :: others =>
      if key = name then (key, node) :: others
      else if name < key then (name, node) :: (key, old) :: others
      else (key, old) :: setEntry name node others

/-- What stands at a path of names, without following links. -/
def get? : Node → List String → Option Node
  | node, [] => some node
  | directory entries, name :: names =>
      match entry? name entries with
      | some child => child.get? names
      | none => none
  | _, _ :: _ => none

/-- Puts a node at a path of names, in the place of what is there. If the directory that would hold it is not there,
nothing changes. -/
def put (new : Node) : Node → List String → Node
  | _, [] => new
  | directory entries, [name] => directory (setEntry name new entries)
  | directory entries, name :: next :: names =>
      match entry? name entries with
      | some child => directory (setEntry name (put new child (next :: names)) entries)
      | none => directory entries
  | node, _ :: _ => node

mutual

/-- All that stands in a tree, with the paths of names that lead there: a directory in front of what is in it, and that
in the order of the entries. -/
def stops : Node → List (List String × Face)
  | file content => [([], .file content)]
  | link target => [([], .link target)]
  | directory entries => ([], .directory) :: stopsOf entries

def stopsOf : List (String × Node) → List (List String × Face)
  | [] => []
  | (name, node) :: others =>
      (stops node).map (fun stop => (name :: stop.1, stop.2)) ++ stopsOf others

end

/-- The regular files of a tree, with the paths of names that lead there. -/
def files (node : Node) : List (List String × ByteArray) :=
  node.stops.filterMap fun
    | (names, .file content) => some (names, content)
    | _ => none

end Node

end Companion
