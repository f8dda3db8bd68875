import Companion.Command

/-!
The outer layer between the disk and trees of files. Before a call the parts of the disk that it can touch are read
into a tree; afterwards what has changed in the tree is written back.
-/

set_option autoImplicit false

namespace Companion.Disk

def pathOf (names : List String) : String :=
  "/" ++ String.intercalate "/" names

def entryAt (names : List String) : IO.FS.DirEntry :=
  ⟨pathOf names.dropLast, names.getLast?.getD "."⟩

def typeAt (names : List String) : IO (Option IO.FS.FileType) := do
  try
    return some (← (entryAt names).path.symlinkMetadata).type
  catch _ => return none

/-- The target of a link, as the path to which it leads in the end; empty if it leads nowhere. -/
def targetOf (names : List String) : IO String := do
  try
    return (← IO.FS.realPath (pathOf names)).toString
  catch _ => return ""

/-- Work on the disk that notes the places of the directories that cannot be listed. -/
abbrev Reading := StateT (List (List String)) IO

/-- The entries of the directory at a path of names; none, if it cannot be listed. -/
def entriesAt (names : List String) : Reading (Array IO.FS.DirEntry) := do
  try
    (entryAt names).path.readDir
  catch _ =>
    modify (names :: ·)
    return #[]

/-- Reads the tree at a path of names. Only files whose names are wanted are read; the others count as empty. -/
partial def readTree (isWanted : String → Bool) (names : List String) : Reading Node := do
  match ← typeAt names with
  | some .dir =>
      let found ← entriesAt names
      let mut entries : List (String × Node) := []
      for entry in found do
        let child ← readTree isWanted (names ++ [entry.fileName])
        entries := Node.setEntry entry.fileName child entries
      return .directory entries
  | some .file =>
      if isWanted (names.getLast?.getD "") then return .file (← IO.FS.readBinFile (pathOf names))
      else return .file ByteArray.empty
  | some .symlink => return .link (← targetOf names)
  | _ => return .link ""

/-- Puts what is at a path into a tree, with what stands on the way. `here` are the names that lead to the directory
from which the path goes on. -/
partial def mount (isWanted : String → Bool) (tree : Node) (here : List String) : List String → Reading Node
  | [] => return Node.put (← readTree isWanted here) tree here
  | step :: steps => do
      if step == "." then mount isWanted tree here steps
      else if step == ".." then mount isWanted tree here.dropLast steps
      else
        let next := here ++ [step]
        match ← typeAt next with
        | some .dir =>
            let tree := if (tree.get? next).isSome then tree else Node.put .emptyDirectory tree next
            mount isWanted tree next steps
        | some .symlink =>
            let target ← targetOf next
            let tree := Node.put (.link target) tree next
            if target.isEmpty then return tree
            else mount isWanted tree [] (FileSystem.stepsOf target ++ steps)
        | some _ =>
            if steps.isEmpty then return Node.put (← readTree isWanted next) tree next
            else return Node.put (.file ByteArray.empty) tree next
        | none => return tree

def mountPath (isWanted : String → Bool) (files : FileSystem) (path : FilePath) : IO FileSystem := do
  let (root, closed) ← (mount isWanted files.root (files.startOf path) (FileSystem.stepsOf path.text)).run files.closed
  return { files with root, closed }

def mountPath? (isWanted : String → Bool) (files : FileSystem) (path : Option FilePath) : IO FileSystem :=
  match path with
  | some path => mountPath isWanted files path
  | none => return files

def workingTree : IO FileSystem := do
  let names := FileSystem.stepsOf (← IO.currentDir).toString
  let chain := (List.range names.length).foldl
    (fun tree count => Node.put .emptyDirectory tree (names.take (count + 1))) Node.emptyDirectory
  return ⟨chain, names, []⟩

/-- Reads what a call of the program can touch. Where a file is part of several trees, the one that is read last has
its content: the configuration and the log come last. -/
def read (invocation : Command.Invocation) : IO FileSystem := do
  let every (_ : String) : Bool := true
  let configuration := invocation.configuration.getD ProjectConfig.defaultPath
  let files ← mountPath every (← workingTree) configuration
  let project := (ProjectConfig.load files invocation.configuration).toOption.getD .default
  let log := (invocation.logConfig project).file
  let files ← match invocation.request with
    | .check => pure files
    | .generate request =>
        let files ← mountPath? (fun _ => false) files (request.override project.generator).generatedDirectory
        mountPath (fun name => Source.isRustFile ⟨name⟩) files request.source
  mountPath? every (← mountPath every files configuration) log

/-- Writes the differences of a tree from an older one. -/
partial def write (names : List String) (old : Option Node) (new : Node) : IO Unit := do
  match new with
  | .link _ => return
  | .file content =>
      let isSame := match old with
        | some (.file before) => before == content
        | _ => false
      unless isSame do
        IO.FS.writeBinFile (pathOf names) content
  | .directory entries =>
      let before := match old with
        | some (.directory before) => some before
        | _ => none
      if before.isNone then
        IO.FS.createDir (pathOf names)
      for (name, child) in entries do
        write (names ++ [name]) (before.bind (Node.entry? name)) child

end Companion.Disk
