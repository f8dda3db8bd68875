set_option autoImplicit false

namespace Companion.Text

/-- The characters with the property `White_Space`. -/
def isBlank (c : Char) : Bool :=
  let code := c.toNat
  (9 ≤ code && code ≤ 13) || code == 0x20 || code == 0x85 || code == 0xA0 || code == 0x1680
    || (0x2000 ≤ code && code ≤ 0x200A) || code == 0x2028 || code == 0x2029 || code == 0x202F
    || code == 0x205F || code == 0x3000

def trimFront (text : List Char) : List Char :=
  text.dropWhile isBlank

def trimBack (text : List Char) : List Char :=
  (text.reverse.dropWhile isBlank).reverse

def trimChars (text : List Char) : List Char :=
  trimBack (trimFront text)

def trim (text : String) : String :=
  String.ofList (trimChars text.toList)

def trimEnd (text : String) : String :=
  String.ofList (trimBack text.toList)

/-- The pieces between separators, in order. There is always one piece more than there are separators. -/
def splitChars (separates : Char → Bool) : List Char → List (List Char)
  | [] => [[]]
  | c :: rest =>
      match splitChars separates rest with
      | [] => if separates c then [[], []] else [[c]]
      | piece :: pieces => if separates c then [] :: piece :: pieces else (c :: piece) :: pieces

def split (separates : Char → Bool) (text : String) : List String :=
  (splitChars separates text.toList).map String.ofList

def withoutReturn (line : List Char) : List Char :=
  match line.reverse with
  | '\r' :: front => front.reverse
  | _ => line

/-- The lines of a text: a line ends in a line feed or in a carriage return and a line feed, and the last line
need not have an end. -/
def lines (text : String) : List String :=
  let pieces := splitChars (· == '\n') text.toList
  let ended := (pieces.dropLast).map fun line => String.ofList (withoutReturn line)
  match pieces.getLast? with
  | none | some [] => ended
  | some last => ended ++ [String.ofList last]

def startsWith (text front : List Char) : Bool :=
  front.isPrefixOf text

def afterFront? (front text : List Char) : Option (List Char) :=
  match front, text with
  | [], rest => some rest
  | _ :: _, [] => none
  | f :: front, c :: text => if f == c then afterFront? front text else none

/-- Replaces each occurrence of a pattern, found from the left and without overlap. `skip` counts the characters
of an occurrence that still have to be passed over. -/
def replaceFrom (pattern replacement : List Char) (skip : Nat) : List Char → List Char
  | [] => []
  | c :: rest =>
      match skip with
      | n + 1 => replaceFrom pattern replacement n rest
      | 0 =>
          if pattern.isPrefixOf (c :: rest) && !pattern.isEmpty then
            replacement ++ replaceFrom pattern replacement (pattern.length - 1) rest
          else
            c :: replaceFrom pattern replacement 0 rest

def replace (pattern replacement text : String) : String :=
  String.ofList (replaceFrom pattern.toList replacement.toList 0 text.toList)

/-- The lower case of the ASCII letters; every other character stays. -/
def lowerAscii (text : String) : String :=
  String.ofList (text.toList.map Char.toLower)

end Companion.Text
