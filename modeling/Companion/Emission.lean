import Companion.FileSystem
import Companion.Render

set_option autoImplicit false

namespace Companion

inductive GenerateError where
  | createDirectory (path : FilePath) (cause : OsError)
  | write (path : FilePath) (cause : OsError)
  deriving DecidableEq, Repr

namespace GenerateError

def message : GenerateError → String
  | createDirectory path cause =>
      "failed to create directory " ++ Text.quoted path.text ++ ": " ++ cause.message
  | write path cause => "failed to write " ++ Text.quoted path.text ++ ": " ++ cause.message

def path : GenerateError → FilePath
  | createDirectory path _ | write path _ => path

end GenerateError

def prepareDirectory (files : FileSystem) (path : FilePath) :
    FileSystem × Except GenerateError Unit :=
  match path.parent? with
  | none => (files, .ok ())
  | some directory =>
      match files.makeDirectories directory with
      | (files, .ok ()) => (files, .ok ())
      | (files, .error cause) => (files, .error (.createDirectory directory cause))

/-- Writes a companion type below a root directory, in the place of an earlier file of that path, and gives the path.
Directories that were made stay, also when the file cannot be written. -/
def CompanionType.emit (type : CompanionType) (language : Language) (root : FilePath) (files : FileSystem) :
    FileSystem × Except GenerateError FilePath :=
  let path := type.outputPath root language.extension
  match prepareDirectory files path with
  | (files, .error reason) => (files, .error reason)
  | (files, .ok ()) =>
      match files.write path (type.render language) with
      | .ok files => (files, .ok path)
      | .error cause => (files, .error (.write path cause))

end Companion
