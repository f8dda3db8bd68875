import Companion.Syntax.Lexeme
import Companion.Syntax.Token
import Companion.Text.Quoted

/-!
From text to token trees. Documentation comments become attributes; other comments and white space vanish.
-/

set_option autoImplicit false

namespace Companion.Syntax

def docAttribute (text : List Char) (isInner : Bool) (place : Position) : List Tree :=
  let body : List Tree :=
    [.word "doc" place, .sign '=' false place, .literal (Text.stringLiteral (String.ofList text)) place]
  let group := Tree.group .bracket body place place
  if isInner then [.sign '#' false place, .sign '!' false place, group]
  else [.sign '#' false place, group]

def leaf (text : List Char) (place : Position) : Option (Nat × Tree) :=
  match Lexeme.literal text with
  | some length => some (length, .literal (String.ofList (text.take length)) place)
  | none =>
      match text with
      | '\'' :: rest =>
          if Lexeme.opensLifetime rest then
            match Lexeme.literal rest, Lexeme.word rest with
            | none, some length =>
                some (length + 1, .lifetime (String.ofList (rest.take length)) place)
            | _, _ => some (1, .sign '\'' true place)
          else none
      | c :: rest =>
          if Lexeme.startsWithSign text then
            some (1, .sign c (Lexeme.startsWithSign rest) place)
          else
            (Lexeme.word text).map fun length =>
              (length, .word (String.ofList (text.take length)) place)
      | [] => none

/-- A group that is still open: what stood before it, last token first. -/
structure OpenGroup where
  delimiter : Delimiter
  opened : Position
  before : List Tree

/-- Reads trees. `groups` are the open groups, the innermost first, and `found` what the innermost holds so far, last
token first. The error is the place where no token can be read. -/
def scan : Nat → List Char → Position → List OpenGroup → List Tree → Except Position (List Tree)
  | 0, _, place, _, _ => .error place
  | fuel + 1, text, place, groups, found =>
      match Lexeme.trivia text with
      | some length => scan fuel (text.drop length) (place.after (text.take length)) groups found
      | none =>
          match Lexeme.documentation text with
          | some (length, comment, isInner) =>
              scan fuel (text.drop length) (place.after (text.take length)) groups
                ((docAttribute comment isInner place).reverse ++ found)
          | none =>
              match text, groups with
              | [], [] => .ok found.reverse
              | [], group :: _ => .error group.opened
              | c :: rest, groups =>
                  match Delimiter.ofOpening? c, Delimiter.ofClosing? c, groups with
                  | some delimiter, _, _ =>
                      scan fuel rest (place.next c) (⟨delimiter, place, found⟩ :: groups) []
                  | none, some delimiter, group :: outer =>
                      if delimiter = group.delimiter then
                        let tree := Tree.group delimiter found.reverse group.opened place
                        scan fuel rest (place.next c) outer (tree :: group.before)
                      else .error place
                  | none, some _, [] => .error place
                  | none, none, groups =>
                      match leaf (c :: rest) place with
                      | some (length, tree) =>
                          scan fuel ((c :: rest).drop length) (place.after ((c :: rest).take length))
                            groups (tree :: found)
                      | none => .error place

def byteOrderMark : Char := '\uFEFF'

/-- Reads the trees of a text whose first character stands at a given place. -/
def treesFrom (place : Position) (text : List Char) : Except Position (List Tree) :=
  match text with
  | c :: rest =>
      if c == byteOrderMark then scan (rest.length + 1) rest (place.next c) [] []
      else scan (text.length + 1) text place [] []
  | [] => .ok []

def trees (text : String) : Except Position (List Tree) :=
  treesFrom .start text.toList

/-- The text of a file from which a byte order mark and a first line that names an interpreter have been removed, and
the place where the rest begins. -/
def fileBody (text : List Char) : List Char :=
  let text := match text with
    | c :: rest => if c == byteOrderMark then rest else text
    | [] => []
  match text with
  | '#' :: '!' :: rest =>
      if (skipTrivia (rest.length + 1) rest).head? == some '[' then text
      else text.dropWhile (· ≠ '\n')
  | _ => text
where
  /-- A text without the white space and comments in front. -/
  skipTrivia : Nat → List Char → List Char
    | 0, text => text
    | fuel + 1, text =>
        match Lexeme.trivia text with
        | some length => skipTrivia fuel (text.drop length)
        | none => text

end Companion.Syntax
