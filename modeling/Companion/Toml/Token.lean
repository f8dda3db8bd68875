/-!
Tokens of TOML text. Every text divides into tokens; whether a token is well formed is decided later, by whoever asks
for its value. Joined together, the texts of the tokens are the text that was divided.
-/

set_option autoImplicit false

namespace Companion.Toml

/-- A stretch of a text, counted in characters; the character at `stop` is not part of it. -/
structure Span where
  start : Nat
  stop : Nat
  deriving DecidableEq, Repr

namespace Span

def point (place : Nat) : Span := ⟨place, place⟩

end Span

/-- How a string is written. A block may hold several lines. -/
inductive StringStyle where
  | basic
  | literal
  | basicBlock
  | literalBlock
  deriving DecidableEq, Repr

namespace StringStyle

def quote : StringStyle → Char
  | basic | basicBlock => '"'
  | literal | literalBlock => '\''

def isBlock : StringStyle → Bool
  | basicBlock | literalBlock => true
  | basic | literal => false

def hasEscapes : StringStyle → Bool
  | basic | basicBlock => true
  | literal | literalBlock => false

def delimiter (style : StringStyle) : List Char :=
  List.replicate (if style.isBlock then 3 else 1) style.quote

end StringStyle

inductive Sign where
  | dot
  | equals
  | comma
  | openBracket
  | closeBracket
  | openBrace
  | closeBrace
  deriving DecidableEq, Repr

def Sign.ofChar? : Char → Option Sign
  | '.' => some dot
  | '=' => some equals
  | ',' => some comma
  | '[' => some openBracket
  | ']' => some closeBracket
  | '\x7b' => some openBrace
  | '\x7d' => some closeBrace
  | _ => none

/-- The sorts of tokens. An atom is a key or a value without quotes, and the text ends with `finish`. -/
inductive TokenKind where
  | sign (sign : Sign)
  | blank
  | newline
  | comment
  | string (style : StringStyle)
  | atom
  | finish
  deriving DecidableEq, Repr

/-- A token, the place of its first character, and its text. -/
structure Token where
  kind : TokenKind
  start : Nat
  text : List Char
  deriving DecidableEq, Repr

namespace Token

def stop (token : Token) : Nat := token.start + token.text.length

def span (token : Token) : Span := ⟨token.start, token.stop⟩

def isBlank (token : Token) : Bool := token.kind == .blank

/-- Whether a character is white space within a line. -/
def isBlankChar (c : Char) : Bool := c == ' ' || c == '\t'

def endsAtom (c : Char) : Bool :=
  isBlankChar c || c == '#' || c == '\r' || c == '\n' || (Sign.ofChar? c).isSome

/-- Whether a character is passed over behind a backslash, so that it does not act as itself. -/
def isProtected (escaped : Bool) (c : Char) : Bool :=
  escaped && (c == '\\' || c == '"')

/-- The length of the rest of a string of one line, its opening quote being passed. Without a closing quote the string
ends with the line. `escaped` tells whether a backslash stands in front. -/
def lineLength (style : StringStyle) (escaped : Bool) : List Char → Nat
  | [] => 0
  | c :: rest =>
      if isProtected escaped c then lineLength style false rest + 1
      else if c == '\n' then 0
      else if c == style.quote then 1
      else lineLength style (style.hasEscapes && c == '\\') rest + 1

/-- The length of the rest of a block, its opening quotes being passed. Up to two quotes in front of the closing ones
belong to the block. Without closing quotes it goes on to the end of the text. -/
def blockLength (style : StringStyle) (escaped : Bool) : List Char → Nat
  | [] => 0
  | c :: rest =>
      if isProtected escaped c then blockLength style false rest + 1
      else if style.delimiter.isPrefixOf (c :: rest) then
        3 + (((rest.drop 2).take 2).takeWhile (· == style.quote)).length
      else blockLength style (style.hasEscapes && c == '\\') rest + 1

def string? (text : List Char) : Option (StringStyle × Nat) :=
  match text with
  | '\'' :: '\'' :: '\'' :: rest => some (.literalBlock, blockLength .literalBlock false rest + 3)
  | '"' :: '"' :: '"' :: rest => some (.basicBlock, blockLength .basicBlock false rest + 3)
  | '\'' :: rest => some (.literal, lineLength .literal false rest + 1)
  | '"' :: rest => some (.basic, lineLength .basic false rest + 1)
  | _ => none

def kindAt (c : Char) (rest : List Char) : TokenKind × Nat :=
  match Sign.ofChar? c, string? (c :: rest) with
  | some sign, _ => (.sign sign, 1)
  | none, some (style, length) => (.string style, length)
  | none, none =>
      if isBlankChar c then (.blank, (rest.takeWhile isBlankChar).length + 1)
      else if c == '#' then (.comment, (rest.takeWhile fun d => d != '\r' && d != '\n').length + 1)
      else if c == '\r' then (.newline, if rest.head? == some '\n' then 2 else 1)
      else if c == '\n' then (.newline, 1)
      else (.atom, (rest.takeWhile fun d => !endsAtom d).length + 1)

/-- The tokens of a text that begins at a place. `skip` counts the characters that belong to the token in front of
them. -/
def divide (place skip : Nat) : List Char → List Token
  | [] => []
  | c :: rest =>
      match skip with
      | skip + 1 => divide (place + 1) skip rest
      | 0 =>
          let (kind, length) := kindAt c rest
          ⟨kind, place, (c :: rest).take length⟩ :: divide (place + 1) (length - 1) rest

def byteOrderMark : Char := '\uFEFF'

/-- The tokens of a text. A byte order mark at the front is no part of them but counts for their places. -/
def all (text : List Char) : List Token :=
  match text with
  | c :: rest => if c == byteOrderMark then divide 1 0 rest else divide 0 0 text
  | [] => []

end Token

end Companion.Toml
