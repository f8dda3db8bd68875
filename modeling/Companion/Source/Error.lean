import Companion.FileSystem.Walk
import Companion.Syntax.Error
import Companion.Text.Quoted

set_option autoImplicit false

namespace Companion

/-- Why a source file or a source tree cannot be loaded. The path is empty when a text was not read from a file. -/
inductive SourceError where
  | unreadable (path : FilePath) (cause : OsError)
  | unparsable (path : FilePath) (place : Syntax.Position) (reason : String)
  | unwalkable (cause : WalkError)
  | notDirectory (path : FilePath)
  deriving DecidableEq, Repr

namespace SourceError

def ofSyntax (path : FilePath) (error : Syntax.SyntaxError) : SourceError :=
  .unparsable path error.place error.complaint.message

def message : SourceError → String
  | unreadable path cause => "failed to read " ++ Text.quoted path.text ++ ": " ++ cause.message
  | unparsable path place reason =>
      "failed to parse " ++ Text.quoted path.text ++ " at " ++ toString place.line ++ ":"
        ++ toString place.column ++ ": " ++ reason
  | unwalkable cause => "failed to walk source directory: " ++ cause.message
  | notDirectory path => "source root " ++ Text.quoted path.text ++ " is not a directory"

end SourceError

end Companion
