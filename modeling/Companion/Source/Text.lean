import Companion.FileSystem.Walk
import Companion.Namespace.OfFile
import Companion.Source.Error
import Companion.Source.Index
import Companion.Syntax.File
import Companion.Workspace

/-!
Sources made of Rust text: a single text, a file, or all files of a tree. A text or file that cannot be loaded leaves
the source as it was, and a tree leaves it with the files in front of the first such file, or of the first directory that
cannot be listed.
-/

set_option autoImplicit false

namespace Companion.Source

def textEvent (space : Namespace) (file : Option FilePath) (found : Nat) : Log.Event :=
  .textParsed (match file with | some path => path.text | none => "") space.toDotted found

/-- Adds the declarations of a text whose items live in a namespace, and gives the events of doing so. The file is only
used for locations. -/
def addText (source : Source) (text : String) (space : Namespace) (file : Option FilePath) :
    Except SourceError (Source × List Log.Event) :=
  match Syntax.readFile text with
  | .error error => .error (.ofSyntax (file.getD .empty) error)
  | .ok items =>
      let found := Index.itemsFindings file space items
      .ok (source.addAll found.declarations,
        found.events ++ [textEvent space file found.declarations.length])

def addFile (source : Source) (files : FileSystem) (path : FilePath) (space : Namespace) :
    Except SourceError (Source × List Log.Event) :=
  match files.readText path with
  | .error cause => .error (.unreadable path cause)
  | .ok text =>
      match source.addText text space (some path) with
      | .error error => .error error
      | .ok (source, events) => .ok ({ source with files := source.files ++ [path] }, events)

def isRustFile (path : FilePath) : Bool :=
  path.extension? == some "rs"

/-- The Rust files that a walk comes to, in the order in which they are added. -/
def rustFiles (files : FileSystem) (root : FilePath) : List FilePath :=
  (files.walk root).files.filter isRustFile

/-- What adding several files came to: the source and the work behind it, and why it stopped early, if it did. -/
structure Loading where
  source : Source
  work : Workspace
  error : Option SourceError

def addFiles (root : FilePath) : List FilePath → Source → Workspace → Loading
  | [], source, work => ⟨source, work, none⟩
  | path :: paths, source, work =>
      match source.addFile work.files path (Namespace.ofFile root path) with
      | .error error => ⟨source, work, some error⟩
      | .ok (source, events) => addFiles root paths source (work.logAll events)

def addDirectory (source : Source) (work : Workspace) (root : FilePath) : Loading :=
  if work.files.isDirectory root then
    let loading := addFiles root (rustFiles work.files root) source work
    { loading with error := loading.error.or ((work.files.walk root).error.map .unwalkable) }
  else ⟨source, work, some (.notDirectory root)⟩

def ofDirectory (work : Workspace) (root : FilePath) : Workspace × Except SourceError Source :=
  let loading := empty.addDirectory work root
  match loading.error with
  | some error => (loading.work, .error error)
  | none => (loading.work, .ok loading.source)

end Companion.Source
