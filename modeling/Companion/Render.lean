import Companion.Language
import Companion.Render.Kotlin
import Companion.Render.Rust

set_option autoImplicit false

namespace Companion

def CompanionType.render (type : CompanionType) : Language → String
  | .rust => Render.Rust.file type
  | .kotlin => Render.Kotlin.file type

/-- The path of the file that holds a companion type: below the root, in the directory of the namespace. -/
def CompanionType.outputPath (type : CompanionType) (root : FilePath) (extension : String) : FilePath :=
  (type.space.under root).join (type.name ++ "." ++ extension)

end Companion
