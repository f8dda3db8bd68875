import Companion.Text.Blank

/-!
File paths as text. A path keeps the text it was made from; its components are read off the text, where repeated
slashes and inner `.` components do not count. Paths that are no UTF-8 are left out, so a path is shown as it is kept.
-/

set_option autoImplicit false

namespace Companion

structure FilePath where
  text : String
  deriving DecidableEq, Repr

namespace FilePath

inductive Component where
  | root
  | current
  | parent
  | name (text : String)
  deriving DecidableEq, Repr

def empty : FilePath := ⟨""⟩

def isAbsolute (path : FilePath) : Bool :=
  path.text.toList.head? == some '/'

def pieces (path : FilePath) : List String :=
  Text.split (· == '/') path.text

/-- A path below this one: one slash stands between the two unless this path is empty or ends in a slash already,
and an absolute path takes the place of the whole. -/
def join (path : FilePath) (below : String) : FilePath :=
  if (FilePath.mk below).isAbsolute then ⟨below⟩
  else if path.text.isEmpty || path.text.toList.getLast? == some '/' then ⟨path.text ++ below⟩
  else ⟨path.text ++ "/" ++ below⟩

def below (path : FilePath) (names : List String) : FilePath :=
  names.foldl join path

/-- The component that a text between slashes stands for, if it does not count for nothing. -/
def Component.ofPiece? (piece : String) : Option Component :=
  if piece == "" || piece == "." then none
  else if piece == ".." then some .parent
  else some (.name piece)

/-- The components of a path. A `.` counts only at the front of a relative path. -/
def components (path : FilePath) : List Component :=
  let front : List Component :=
    if path.isAbsolute then [.root]
    else if path.pieces.head? == some "." then [.current]
    else []
  front ++ path.pieces.filterMap Component.ofPiece?

def Component.name? : Component → Option String
  | .name text => some text
  | _ => none

def fileName? (path : FilePath) : Option String :=
  path.components.getLast?.bind Component.name?

/-- Divides a file name at its last dot into stem and extension. A dot in front does not start an extension. -/
def splitName (name : String) : String × Option String :=
  let backwards := name.toList.reverse
  let after := backwards.takeWhile (· ≠ '.')
  match backwards.drop after.length with
  | [] | [_] => (name, none)
  | _ :: before => (String.ofList before.reverse, some (String.ofList after.reverse))

def extension? (path : FilePath) : Option String :=
  path.fileName?.bind fun name => (splitName name).2

def idle (isAbsolute : Bool) (index : Nat) (piece : String) : Bool :=
  piece == "" || (piece == "." && (isAbsolute || index != 0))

/-- Drops the pieces at the end that count for nothing. The list is reversed, and the index of a piece is the number
of pieces after it. -/
def dropIdle (isAbsolute : Bool) : List String → List String
  | [] => []
  | piece :: before =>
      if idle isAbsolute before.length piece then dropIdle isAbsolute before else piece :: before

/-- The path without its last component; none for the empty path and the root directory. -/
def parent? (path : FilePath) : Option FilePath :=
  match dropIdle path.isAbsolute path.pieces.reverse with
  | [] => none
  | _ :: before =>
      match dropIdle path.isAbsolute before with
      | [] => some (if path.isAbsolute then ⟨"/"⟩ else empty)
      | kept => some ⟨String.intercalate "/" kept.reverse⟩

def componentsBelow (directory path : FilePath) : List Component :=
  let whole := path.components
  let front := directory.components
  if front.isPrefixOf whole then whole.drop front.length else whole

end FilePath

end Companion
