import Companion.Syntax.Lexeme

set_option autoImplicit false

namespace Companion.Syntax.Literal

/-- A code point between braces, behind the opening one: its value and what follows the closing brace. -/
def codePoint (value : Nat) : List Char → Nat × List Char
  | '\x7d' :: rest => (value, rest)
  | '_' :: rest => codePoint value rest
  | c :: rest => codePoint (value * 16 + Lexeme.digitValue c) rest
  | [] => (value, [])

/-- The white space that is dropped behind a backslash at the end of a line. -/
def isFolded (c : Char) : Bool :=
  [' ', '\t', '\n', '\r'].contains c

def letterEscape : Char → Char
  | 'n' => '\n'
  | 'r' => '\r'
  | 't' => '\t'
  | '0' => '\x00'
  | c => c

/-- The text of a string up to its closing quote, with escapes undone. -/
def cookedWithin : Nat → List Char → List Char
  | 0, _ => []
  | fuel + 1, text =>
      match text with
      | [] | '"' :: _ => []
      | '\\' :: 'x' :: high :: low :: rest =>
          Char.ofNat (Lexeme.digitValue high * 16 + Lexeme.digitValue low) :: cookedWithin fuel rest
      | '\\' :: 'u' :: '\x7b' :: rest =>
          let (value, behind) := codePoint 0 rest
          Char.ofNat value :: cookedWithin fuel behind
      | '\\' :: '\n' :: rest | '\\' :: '\r' :: rest => cookedWithin fuel (rest.dropWhile isFolded)
      | '\\' :: c :: rest => letterEscape c :: cookedWithin fuel rest
      | '\r' :: '\n' :: rest => '\n' :: cookedWithin fuel rest
      | c :: rest => c :: cookedWithin fuel rest

/-- The text of a raw string behind its opening quote; `hashes` number signs stand behind the closing quote. -/
def rawText (hashes : Nat) : List Char → List Char
  | [] => []
  | c :: rest =>
      if c == '"' && (rest.take hashes).length == hashes && (rest.take hashes).all (· == '#') then []
      else c :: rawText hashes rest

/-- The text that a string literal stands for; other literals stand for none. -/
def stringValue (literal : List Char) : Option (List Char) :=
  match literal with
  | '"' :: rest => some (cookedWithin (rest.length + 1) rest)
  | 'r' :: rest =>
      let hashes := (rest.takeWhile (· == '#')).length
      some (rawText hashes (rest.drop (hashes + 1)))
  | _ => none

def isDecimal (literal : List Char) : Bool :=
  match literal with
  | '0' :: 'x' :: _ | '0' :: 'o' :: _ | '0' :: 'b' :: _ => false
  | c :: _ => c.isDigit
  | [] => false

/-- Whether a decimal number has a point or an exponent. -/
def hasFraction (literal : List Char) : Bool :=
  let behind := literal.dropWhile fun c => c.isDigit || c == '_'
  match behind with
  | '.' :: _ => true
  | c :: rest =>
      (c == 'e' || c == 'E') &&
        match rest.dropWhile (· == '_') with
        | d :: _ => d == '+' || d == '-' || d.isDigit
        | [] => false
  | [] => false

def isFloat (literal : List Char) : Bool :=
  isDecimal literal && hasFraction literal

def isWhole (literal : List Char) : Bool :=
  match literal with
  | c :: _ => c.isDigit && !isFloat literal
  | [] => false

/-- The digits of a whole number behind the mark of its base, and its base. -/
def baseDigits (literal : List Char) : Nat × List Char :=
  match literal with
  | '0' :: 'x' :: rest => (16, rest)
  | '0' :: 'o' :: rest => (8, rest)
  | '0' :: 'b' :: rest => (2, rest)
  | _ => (10, literal)

def isDigitOf (base : Nat) (c : Char) : Bool :=
  c.isDigit || (base == 16 && Lexeme.isHexDigit c)

def wholeValue (literal : List Char) : Nat × List Char :=
  let (base, digits) := baseDigits literal
  let isPart (c : Char) : Bool := isDigitOf base c || c == '_'
  let number := (digits.takeWhile isPart).filter (isDigitOf base)
  (number.foldl (fun value c => value * base + Lexeme.digitValue c) 0, digits.dropWhile isPart)

end Companion.Syntax.Literal
