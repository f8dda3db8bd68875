import Companion.Text.Blank
import Companion.Text.Property

set_option autoImplicit false

namespace Companion.Syntax.Lexeme

/-- White space between tokens; the two marks of writing direction count as such. -/
def isSpace (c : Char) : Bool :=
  Text.isBlank c || c == '\u200E' || c == '\u200F'

def identifier (text : List Char) : Nat :=
  match text with
  | first :: rest =>
      if Text.startsIdentifier first then (rest.takeWhile Text.continuesIdentifier).length + 1 else 0
  | [] => 0

/-- An identifier that may be raw. The words that lead out of a module, and `_`, cannot be. -/
def rawIdentifier (text : List Char) : Option Nat :=
  match text with
  | 'r' :: '#' :: rest =>
      let length := identifier rest
      if length == 0 then none
      else if ["_", "super", "self", "Self", "crate"].contains (String.ofList (rest.take length)) then none
      else some (length + 2)
  | _ =>
      let length := identifier text
      if length == 0 then none else some length

/-- The beginnings of literals, which are never words. -/
def literalFronts : List (List Char) :=
  ["r\"", "r#\"", "r##", "b\"", "b'", "br\"", "br#", "c\"", "cr\"", "cr#"].map String.toList

def word (text : List Char) : Option Nat :=
  if literalFronts.any fun front => Text.startsWith text front then none else rawIdentifier text

/-- The end of a block comment, behind its opening: comments nest. -/
def commentEnd (depth : Nat) : List Char → Option Nat
  | '/' :: '*' :: rest => (commentEnd (depth + 1) rest).map (· + 2)
  | '*' :: '/' :: rest =>
      match depth with
      | 0 => some 2
      | depth + 1 => (commentEnd depth rest).map (· + 2)
  | _ :: rest => (commentEnd depth rest).map (· + 1)
  | [] => none

def blockComment (text : List Char) : Option Nat :=
  match text with
  | '/' :: '*' :: rest => (commentEnd 0 rest).map (· + 2)
  | _ => none

/-- The characters up to the end of a line. A carriage return in front of the line feed does not belong to
the line. -/
def lineLength : List Char → Nat
  | '\n' :: _ => 0
  | '\r' :: '\n' :: _ => 0
  | _ :: rest => lineLength rest + 1
  | [] => 0

def lineComment (text : List Char) : Option Nat :=
  match text with
  | '/' :: '/' :: '!' :: _ => none
  | '/' :: '/' :: '/' :: '/' :: _ => some (lineLength text)
  | '/' :: '/' :: '/' :: _ => none
  | '/' :: '/' :: _ => some (lineLength text)
  | _ => none

def plainBlockComment (text : List Char) : Option Nat :=
  match text with
  | '/' :: '*' :: '!' :: _ => none
  | '/' :: '*' :: '*' :: '/' :: _ => some 4
  | '/' :: '*' :: '*' :: '*' :: _ => blockComment text
  | '/' :: '*' :: '*' :: _ => none
  | '/' :: '*' :: _ => blockComment text
  | _ => none

/-- One piece of what stands between tokens: a white space character or a comment. -/
def trivia (text : List Char) : Option Nat :=
  match lineComment text with
  | some length => some length
  | none =>
      match plainBlockComment text with
      | some length => some length
      | none =>
          match text with
          | c :: _ => if isSpace c then some 1 else none
          | [] => none

/-- Documentation in front of a text: its length, what it says, and whether it belongs to what encloses it. A carriage
return must stand before a line feed. -/
def documentation (text : List Char) : Option (Nat × List Char × Bool) :=
  let line (isInner : Bool) (rest : List Char) : Nat × List Char × Bool :=
    let length := lineLength rest
    (length + 3, rest.take length, isInner)
  let block (isInner : Bool) : Option (Nat × List Char × Bool) :=
    (blockComment text).map fun length => (length, (text.take (length - 2)).drop 3, isInner)
  let found :=
    match text with
    | '/' :: '/' :: '!' :: rest => some (line true rest)
    | '/' :: '*' :: '!' :: _ => block true
    | '/' :: '/' :: '/' :: '/' :: _ => none
    | '/' :: '/' :: '/' :: rest => some (line false rest)
    | '/' :: '*' :: '*' :: '*' :: _ => none
    | '/' :: '*' :: '*' :: _ => block false
    | _ => none
  found.filter fun comment => lonelyReturn comment.2.1
where
  /-- Whether no carriage return stands without a line feed. -/
  lonelyReturn : List Char → Bool
    | '\r' :: '\n' :: rest => lonelyReturn rest
    | '\r' :: _ => false
    | _ :: rest => lonelyReturn rest
    | [] => true

def isHexDigit (c : Char) : Bool :=
  c.isDigit || ('a' ≤ c && c ≤ 'f') || ('A' ≤ c && c ≤ 'F')

def digitValue (c : Char) : Nat :=
  if c.isDigit then c.toNat - '0'.toNat
  else if 'a' ≤ c && c ≤ 'f' then c.toNat - 'a'.toNat + 10
  else c.toNat - 'A'.toNat + 10

def isCodePoint (code : Nat) : Bool :=
  code < 0xD800 || (0xDFFF < code && code < 0x110000)

/-- The rest of a code point escape behind its brace: the length up to the closing brace, and the code point. At most
six digits, with underscores behind the first. -/
def codePointEscape (digits code : Nat) : List Char → Option (Nat × Nat)
  | c :: rest =>
      if isHexDigit c then
        if digits == 6 then none
        else (codePointEscape (digits + 1) (code * 16 + digitValue c) rest).map fun found =>
          (found.1 + 1, found.2)
      else if c == '_' && digits != 0 then
        (codePointEscape digits code rest).map fun found => (found.1 + 1, found.2)
      else if c == '\x7d' && digits != 0 && isCodePoint code then some (1, code)
      else none
  | [] => none

structure EscapeRules where
  /-- Whether two hexadecimal digits are accepted. -/
  accepts : Char → Char → Bool
  hasCodePoints : Bool
  hasNull : Bool

/-- Escapes in character and string literals: the two digits give an ASCII character. -/
def EscapeRules.text : EscapeRules :=
  ⟨fun high low => '0' ≤ high && high ≤ '7' && isHexDigit low, true, true⟩

def EscapeRules.octets : EscapeRules :=
  ⟨fun high low => isHexDigit high && isHexDigit low, false, true⟩

/-- Escapes in literals that end in a null character, and so hold none. -/
def EscapeRules.terminated : EscapeRules :=
  ⟨fun high low => isHexDigit high && isHexDigit low && !(high == '0' && low == '0'), true, false⟩

/-- An escape behind its backslash, other than one that continues a line. -/
def escape (rules : EscapeRules) (text : List Char) : Option Nat :=
  match text with
  | 'x' :: high :: low :: _ => if rules.accepts high low then some 3 else none
  | 'u' :: '\x7b' :: rest =>
      if rules.hasCodePoints then
        match codePointEscape 0 0 rest with
        | some (length, code) => if rules.hasNull || code != 0 then some (length + 2) else none
        | none => none
      else none
  | '0' :: _ => if rules.hasNull then some 1 else none
  | c :: _ => if ['n', 'r', 't', '\\', '\'', '"'].contains c then some 1 else none
  | [] => none

/-- The white space at the start of a line that continues a literal. A carriage return must stand before a line feed,
and something must follow. -/
def continuation (afterReturn : Bool) : List Char → Option Nat
  | c :: rest =>
      if afterReturn then
        if c == '\n' then (continuation false rest).map (· + 1) else none
      else if c == ' ' || c == '\t' || c == '\n' then (continuation false rest).map (· + 1)
      else if c == '\r' then (continuation true rest).map (· + 1)
      else some 0
  | [] => none

/-- The rest of a string literal behind its opening quote, the closing quote included. `fuel` bounds the number of
pieces. -/
def cookedWithin (rules : EscapeRules) (admits : Char → Bool) : Nat → List Char → Option Nat
  | 0, _ => none
  | _ + 1, [] => none
  | fuel + 1, c :: rest =>
      let further (length : Nat) : Option Nat :=
        (cookedWithin rules admits fuel ((c :: rest).drop length)).map (· + length)
      if c == '"' then some 1
      else if c == '\r' then if rest.head? == some '\n' then further 2 else none
      else if c == '\\' then
        match rest with
        | d :: line =>
            if d == '\n' || d == '\r' then
              match continuation (d == '\r') line with
              | some length => further (length + 2)
              | none => none
            else
              match escape rules rest with
              | some length => further (length + 1)
              | none => none
        | [] => none
      else if admits c then further 1
      else none

/-- The rest of a string literal behind its opening quote. -/
def cooked (rules : EscapeRules) (admits : Char → Bool) (text : List Char) : Option Nat :=
  cookedWithin rules admits (text.length + 1) text

/-- The rest of a raw string literal behind its opening quote, up to a quote with enough number signs behind it. -/
def rawEnd (admits : Char → Bool) (hashes : Nat) : List Char → Option Nat
  | '"' :: rest =>
      if (rest.take hashes).length == hashes && (rest.take hashes).all (· == '#') then some (hashes + 1)
      else (rawEnd admits hashes rest).map (· + 1)
  | '\r' :: '\n' :: rest => (rawEnd admits hashes rest).map (· + 2)
  | '\r' :: _ => none
  | c :: rest => if admits c then (rawEnd admits hashes rest).map (· + 1) else none
  | [] => none

def raw (admits : Char → Bool) (text : List Char) : Option Nat :=
  let hashes := (text.takeWhile (· == '#')).length
  match text.drop hashes with
  | '"' :: rest => if 255 < hashes then none else (rawEnd admits hashes rest).map (· + (hashes + 1))
  | _ => none

def anyChar (_ : Char) : Bool := true

def isAscii (c : Char) : Bool := c.toNat < 128

def notNull (c : Char) : Bool := c != '\x00'

/-- A literal of one character between single quotes, behind the opening quote. -/
def character (rules : EscapeRules) (admits : Char → Bool) (text : List Char) : Option Nat :=
  let inner :=
    match text with
    | '\\' :: rest => (escape rules rest).map (· + 1)
    | c :: _ => if admits c then some 1 else none
    | [] => none
  match inner with
  | some length => if (text.drop length).head? == some '\'' then some (length + 1) else none
  | none => none

def quotedLiteral (text : List Char) : Option Nat :=
  match text with
  | '"' :: rest => (cooked .text anyChar rest).map (· + 1)
  | 'b' :: '"' :: rest => (cooked .octets isAscii rest).map (· + 2)
  | 'b' :: 'r' :: rest => (raw isAscii rest).map (· + 2)
  | 'b' :: '\'' :: rest => (character .octets isAscii rest).map (· + 2)
  | 'c' :: '"' :: rest => (cooked .terminated notNull rest).map (· + 2)
  | 'c' :: 'r' :: rest => (raw notNull rest).map (· + 2)
  | 'r' :: rest => (raw anyChar rest).map (· + 1)
  | '\'' :: rest => (character .text anyChar rest).map (· + 1)
  | _ => none

/-- The digits of an exponent behind its letter: their number, unless there is none. A sign may stand in front. -/
def exponentDigits (signed valued : Bool) : List Char → Option Nat
  | c :: rest =>
      if c == '+' || c == '-' then
        if valued then some 0
        else if signed then none
        else (exponentDigits true valued rest).map (· + 1)
      else if c.isDigit then (exponentDigits signed true rest).map (· + 1)
      else if c == '_' then (exponentDigits signed valued rest).map (· + 1)
      else if valued then some 0 else none
  | [] => if valued then some 0 else none

/-- The digits of a number with a fraction or an exponent, behind the first digit. A point does not belong to a number
when a name or another point follows it. Without an exponent behind its letter, the letter begins a suffix, if there is
a fraction. -/
def floatDigits (pointed : Bool) : List Char → Option Nat
  | c :: rest =>
      if c.isDigit || c == '_' then (floatDigits pointed rest).map (· + 1)
      else if c == '.' then
        if pointed then some 0
        else
          match rest with
          | d :: _ =>
              if d == '.' || Text.startsIdentifier d then none else (floatDigits true rest).map (· + 1)
          | [] => some 1
      else if c == 'e' || c == 'E' then
        match exponentDigits false false rest with
        | some length => some (length + 1)
        | none => if pointed then some 0 else none
      else if pointed then some 0 else none
  | [] => if pointed then some 0 else none

def wholeDigits (base : Nat) (started : Bool) : List Char → Option Nat
  | c :: rest =>
      let stop := if started then some 0 else none
      if c.isDigit then
        if base ≤ digitValue c then none else (wholeDigits base true rest).map (· + 1)
      else if isHexDigit c then
        if base ≤ digitValue c then stop else (wholeDigits base true rest).map (· + 1)
      else if c == '_' then
        if !started && base == 10 then none else (wholeDigits base started rest).map (· + 1)
      else stop
  | [] => if started then some 0 else none

def wholeNumber (text : List Char) : Option Nat :=
  match text with
  | '0' :: 'x' :: rest => (wholeDigits 16 false rest).map (· + 2)
  | '0' :: 'o' :: rest => (wholeDigits 8 false rest).map (· + 2)
  | '0' :: 'b' :: rest => (wholeDigits 2 false rest).map (· + 2)
  | _ => wholeDigits 10 false text

def floatNumber (text : List Char) : Option Nat :=
  match text with
  | c :: rest => if c.isDigit then (floatDigits false rest).map (· + 1) else none
  | [] => none

/-- A number with the suffix behind its digits. No more letters may follow. -/
def withSuffix (text : List Char) (digits : Option Nat) : Option Nat :=
  match digits with
  | none => none
  | some length =>
      let whole := length + identifier (text.drop length)
      match (text.drop whole).head? with
      | some c => if Text.continuesIdentifier c then none else some whole
      | none => some whole

def literal (text : List Char) : Option Nat :=
  match quotedLiteral text with
  | some length => some (length + identifier (text.drop length))
  | none =>
      match withSuffix text (floatNumber text) with
      | some length => some length
      | none => withSuffix text (wholeNumber text)

def signs : List Char :=
  "~!@#$%^&*-=+|;:,<.>/?'".toList

/-- Whether a text begins with a sign; the opening of a comment is none. -/
def startsWithSign (text : List Char) : Bool :=
  match text with
  | '/' :: '/' :: _ | '/' :: '*' :: _ => false
  | c :: _ => signs.contains c
  | [] => false

/-- Whether a single quote opens a lifetime: a name follows it that no second quote ends. -/
def opensLifetime (rest : List Char) : Bool :=
  match rawIdentifier rest with
  | none => false
  | some length =>
      match rest.drop length with
      | '\'' :: _ => false
      | '#' :: _ => Text.startsWith rest ['r', '#']
      | _ => true

end Companion.Syntax.Lexeme
