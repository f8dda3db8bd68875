/-!
Token trees of Rust source text. Words, signs, lifetimes and literals are single tokens; what stands between delimiters
is a group. A sign is *joint* when the next character is a sign too, so that `::` is two joint signs.

`Tree.render` writes trees as text: single spaces between tokens, and none behind a joint sign.
-/

set_option autoImplicit false

namespace Companion.Syntax

/-- A place in a text; lines and columns count from one, columns in characters. -/
structure Position where
  line : Nat
  column : Nat
  deriving DecidableEq, Repr

namespace Position

def start : Position := ⟨1, 1⟩

def next (place : Position) (c : Char) : Position :=
  if c == '\n' then ⟨place.line + 1, 1⟩ else ⟨place.line, place.column + 1⟩

def after (place : Position) (text : List Char) : Position :=
  text.foldl next place

end Position

inductive Delimiter where
  | parenthesis
  | bracket
  | brace
  deriving DecidableEq, Repr

namespace Delimiter

def ofOpening? : Char → Option Delimiter
  | '(' => some parenthesis
  | '[' => some bracket
  | '\x7b' => some brace
  | _ => none

def ofClosing? : Char → Option Delimiter
  | ')' => some parenthesis
  | ']' => some bracket
  | '\x7d' => some brace
  | _ => none

/-- Words between delimiters. Braces keep a blank on the inside. -/
def wrap (delimiter : Delimiter) (words : List String) : String :=
  let inner := String.intercalate " " words
  match delimiter with
  | parenthesis => "(" ++ inner ++ ")"
  | bracket => "[" ++ inner ++ "]"
  | brace => if words.isEmpty then "\x7b \x7d" else "\x7b " ++ inner ++ " \x7d"

end Delimiter

/-- A token, or a group of tokens between delimiters. The text of a raw word begins with `r#`. -/
inductive Tree where
  | word (text : String) (place : Position)
  | sign (char : Char) (joint : Bool) (place : Position)
  | lifetime (name : String) (place : Position)
  | literal (text : String) (place : Position)
  | group (delimiter : Delimiter) (body : List Tree) (opened closed : Position)
  deriving Repr

namespace Tree

def place : Tree → Position
  | word _ place | sign _ _ place | lifetime _ place | literal _ place | group _ _ place _ => place

def isJoint : Tree → Bool
  | sign _ joint _ => joint
  | _ => false

mutual

def text : Tree → String
  | word text _ => text
  | sign char _ _ => char.toString
  | lifetime name _ => "'" ++ name
  | literal text _ => text
  | group delimiter body _ _ => delimiter.wrap (words body)

/-- The texts of several trees, where joint signs make one word with what follows. -/
def words : List Tree → List String
  | [] => []
  | tree :: trees =>
      match words trees with
      | [] => [text tree]
      | next :: others =>
          if isJoint tree then (text tree ++ next) :: others else text tree :: next :: others

end

mutual

def size : Tree → Nat
  | group _ body _ _ => sizeAll body + 1
  | _ => 1

def sizeAll : List Tree → Nat
  | [] => 0
  | tree :: trees => size tree + sizeAll trees

end

def render (trees : List Tree) : String :=
  String.intercalate " " (words trees)

end Tree

end Companion.Syntax
