import Companion.FilePath

set_option autoImplicit false

namespace Companion

/-- The path of modules that leads to a declaration, outermost first. No segment of it is empty. -/
@[ext]
structure Namespace where
  segments : List String
  noneEmpty : "" ∉ segments
  deriving DecidableEq, Repr

namespace Namespace

def root : Namespace := ⟨[], List.not_mem_nil⟩

/-- The namespace with the given segments, of which the empty ones are left out. -/
def ofSegments (segments : List String) : Namespace :=
  ⟨segments.filter (· ≠ ""), by simp⟩

/-- Reads a dotted text; white space around a segment does not belong to it. -/
def ofDotted (text : String) : Namespace :=
  ofSegments ((Text.split (· == '.') text).map Text.trim)

def child (space : Namespace) (segment : String) : Namespace :=
  ofSegments (space.segments ++ [segment])

def isRoot (space : Namespace) : Bool :=
  space.segments.isEmpty

def toDotted (space : Namespace) : String :=
  String.intercalate "." space.segments

def toPath (space : Namespace) : FilePath :=
  space.segments.foldl FilePath.join FilePath.empty

def under (space : Namespace) (root : FilePath) : FilePath :=
  root.join space.toPath.text

def qualify (space : Namespace) (name : String) : String :=
  if space.isRoot then name else space.toDotted ++ "." ++ name

end Namespace

end Companion
