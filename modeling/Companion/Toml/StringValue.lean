import Companion.Toml.Expression
import Companion.Toml.Flaw

set_option autoImplicit false

namespace Companion.Toml.StringValue

def fail {α : Type} (span : Span) (malformation : Malformation) : Except Flaw α :=
  .error (.malformed span malformation)

/-- Whether a character may stand for itself in a string, ends of lines and quotes apart. -/
def isVisible (c : Char) : Bool :=
  c == '\t' || (0x20 ≤ c.toNat && c.toNat ≤ 0x7E) || 0x80 ≤ c.toNat

def isPlain (style : StringStyle) (c : Char) : Bool :=
  isVisible c && !(style.hasEscapes && c == '\\') && (style.isBlock || c != style.quote)

def hexDigit? (c : Char) : Option Nat :=
  if '0' ≤ c && c ≤ '9' then some (c.toNat - '0'.toNat)
  else if 'a' ≤ c && c ≤ 'f' then some (c.toNat - 'a'.toNat + 10)
  else if 'A' ≤ c && c ≤ 'F' then some (c.toNat - 'A'.toNat + 10)
  else none

def hexValue (digits : List Char) : Nat :=
  digits.foldl (fun value c => value * 16 + (hexDigit? c).getD 0) 0

/-- The character of a code point; none for a number that is no scalar value. -/
def charOf? (code : Nat) : Option Char :=
  if code < 0xD800 || (0xDFFF < code && code < 0x110000) then some (Char.ofNat code) else none

/-- The character written with a number of hexadecimal digits in front of a text that begins at a place. -/
def hexEscape (count place : Nat) (text : List Char) : Except Flaw Char :=
  let digits := (text.take count).takeWhile fun c => (hexDigit? c).isSome
  if digits.length < count then fail (.point place) .fewEscapeDigits
  else
    match charOf? (hexValue digits) with
    | some c => .ok c
    | none => fail (.point place) .noSuchCharacter

/-- The character for which an escape stands, and the length of the escape without its backslash. The text begins behind
the backslash, at a place. -/
def escape (place : Nat) (text : List Char) : Except Flaw (Char × Nat) :=
  match text with
  | 'b' :: _ => .ok ('\x08', 1)
  | 'e' :: _ => .ok ('\x1b', 1)
  | 'f' :: _ => .ok ('\x0c', 1)
  | 'n' :: _ => .ok ('\n', 1)
  | 'r' :: _ => .ok ('\r', 1)
  | 't' :: _ => .ok ('\t', 1)
  | '\\' :: _ => .ok ('\\', 1)
  | '"' :: _ => .ok ('"', 1)
  | 'x' :: rest => (hexEscape 2 (place + 1) rest).map fun c => (c, 3)
  | 'u' :: rest => (hexEscape 4 (place + 1) rest).map fun c => (c, 5)
  | 'U' :: rest => (hexEscape 8 (place + 1) rest).map fun c => (c, 9)
  | _ => fail (.point place) .unknownEscape

def isSpace (c : Char) : Bool := Token.isBlankChar c || c == '\r' || c == '\n'

/-- The length of the white space in front of a text that begins at a place. -/
def spaceLength (place : Nat) : List Char → Except Flaw Nat
  | [] => .ok 0
  | c :: rest =>
      if c == '\r' && rest.head? != some '\n' then fail ⟨place, place + 1⟩ .loneReturn
      else if isSpace c then (spaceLength (place + 1) rest).map (· + 1)
      else .ok 0

/-- The length of the white space behind a backslash, if a line ends in it. The text begins behind the backslash, at a
place. -/
def fold (place : Nat) (text : List Char) : Except Flaw Nat :=
  let blanks := (text.takeWhile Token.isBlankChar).length
  match text.drop blanks with
  | '\n' :: _ | '\r' :: '\n' :: _ => spaceLength place text
  | _ => fail (.point (place + blanks)) .foldWithoutLineEnd

/-- The characters for which the inside of a string stands. It begins at a place. -/
def decode (style : StringStyle) : Nat → Nat → List Char → Except Flaw (List Char)
  | 0, _, _ => .ok []
  | _, _, [] => .ok []
  | limit + 1, place, c :: rest =>
      if style.hasEscapes && c == '\\' then
        if style.isBlock && (rest.head?.any isSpace) then do
          let length ← fold (place + 1) rest
          decode style limit (place + 1 + length) (rest.drop length)
        else do
          let (d, length) ← escape (place + 1) rest
          let others ← decode style limit (place + 1 + length) (rest.drop length)
          return d :: others
      else if isPlain style c || (style.isBlock && c == '\n') then do
        let others ← decode style limit (place + 1) rest
        return c :: others
      else if style.isBlock && c == '\r' then
        if rest.head? == some '\n' then do
          let others ← decode style limit (place + 1) rest
          return c :: others
        else fail (.point (if style.hasEscapes then place + 1 else place)) .loneReturn
      else
        let bad := rest.takeWhile fun d => !(isPlain style d || d == '\\' || d == '\n')
        fail ⟨place, if style.hasEscapes then place + 1 + bad.length else place⟩ (.stringCharacter style)

/-- The length of the line end that does not belong to a block when it comes first. -/
def firstLineEnd (style : StringStyle) (text : List Char) : Nat :=
  if style.isBlock then
    match text with
    | '\n' :: _ => 1
    | '\r' :: '\n' :: _ => 2
    | _ => 0
  else 0

def ofQuoted (style : StringStyle) (span : Span) (text : List Char) : Except Flaw String :=
  let quotes := style.delimiter.length
  let opened := text.drop quotes
  let lead := firstLineEnd style opened
  let body := opened.drop lead
  if style.delimiter.isSuffixOf body then do
    let inside := body.take (body.length - quotes)
    let decoded ← decode style inside.length (span.start + quotes + lead) inside
    return String.ofList decoded
  else fail (.point span.stop) (.unclosedString style)

def isKeyChar (c : Char) : Bool :=
  c.isAlphanum || c == '-' || c == '_'

def ofBareKey (span : Span) (text : List Char) : Except Flaw String :=
  let good := (text.takeWhile isKeyChar).length
  if text.isEmpty then fail span .emptyKey
  else if good < text.length then fail (.point (span.start + good)) .keyCharacter
  else .ok (String.ofList text)

def ofKey (key : KeyText) : Except Flaw String :=
  match key.style with
  | none => ofBareKey key.span key.text
  | some style => if style.isBlock then fail key.span (.blockAsKey style) else ofQuoted style key.span key.text

end Companion.Toml.StringValue
