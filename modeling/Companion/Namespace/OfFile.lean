import Companion.Namespace

set_option autoImplicit false

namespace Companion.Namespace

def directoryModules : List String := ["lib", "main", "mod"]

def stemSegment (stem : String) : List String :=
  if directoryModules.contains stem then [] else [stem]

/-- The namespace of a file whose components below the source root are given. -/
def ofComponents (components : List FilePath.Component) : Namespace :=
  let directories := components.dropLast.filterMap FilePath.Component.name?
  let stem := match components.getLast?.bind FilePath.Component.name? with
    | some name => stemSegment (FilePath.splitName name).1
    | none => []
  ofSegments (directories ++ stem)

/-- The namespace of a file within the tree below a source root. -/
def ofFile (root file : FilePath) : Namespace :=
  ofComponents (root.componentsBelow file)

end Companion.Namespace
