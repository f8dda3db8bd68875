import Companion.Declaration
import Companion.Syntax.File
import Companion.Text.Quoted

/-!
The marker as an attribute. It checks what it stands on and changes nothing: a struct comes out as it went in, and
anything else comes out behind a statement that stops the compiler with a message.
-/

set_option autoImplicit false

namespace Companion.Marker

inductive Outcome where
  /-- The marker was given arguments. -/
  | arguments
  /-- It stands on a struct. -/
  | accepted
  /-- It stands on another item, which is spelled in canonical form. -/
  | rejected (spelling : List String)
  /-- It does not stand on an item. -/
  | unreadable (complaint : Syntax.Complaint)
  deriving Repr

def isRecord : Syntax.Item → Bool
  | .record .. => true
  | _ => false

def outcome (arguments item : List Syntax.Tree) : Outcome :=
  if !arguments.isEmpty then .arguments
  else
    match Syntax.readItem item with
    | .error error => .unreadable error.complaint
    | .ok (found, spelling) => if isRecord found then .accepted else .rejected spelling

def argumentsMessage : String :=
  "`#[extract_field]` takes no arguments"

def stopWords : List String :=
  ["::", "core", "::", "compile_error", "!"]

def stop (message : String) : List String :=
  stopWords ++ [Syntax.Delimiter.parenthesis.wrap [Text.stringLiteral message], ";"]

def Outcome.words (item : List Syntax.Tree) : Outcome → List String
  | arguments => stop argumentsMessage ++ Syntax.Tree.words item
  | accepted => Syntax.Tree.words item
  | rejected spelling => stop onlyClassesMessage ++ spelling
  | unreadable complaint =>
      stopWords ++ [Syntax.Delimiter.brace.wrap [Text.stringLiteral complaint.message]]

/-- The text that takes the place of the marker and of the item that it stands on. There is none when the arguments or
the item do not divide into tokens. -/
def expand (arguments item : String) : Option String :=
  match Syntax.trees arguments, Syntax.trees item with
  | .ok arguments, .ok item => some (String.intercalate " " ((outcome arguments item).words item))
  | _, _ => none

end Companion.Marker
