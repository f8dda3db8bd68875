import Companion.Toml.Expression
import Companion.Toml.Flaw

/-!
Reading expressions from tokens. A reader either takes tokens from the front or finds the first flaw. What is absent
but could stand for an empty key or an empty value is read as one, and its flaw shows when it is decoded.
-/

set_option autoImplicit false

namespace Companion.Toml

/-- The tokens that are left, the place behind the last token that was taken and is no blank, and the place where the
text ends. -/
structure Cursor where
  rest : List Token
  passed : Nat
  finish : Nat
  deriving DecidableEq, Repr

abbrev Reader (α : Type) := StateT Cursor (Except Flaw) α

namespace Reader

def fail {α : Type} (span : Span) (malformation : Malformation) : Reader α :=
  throw (.malformed span malformation)

def isCommentChar (c : Char) : Bool :=
  c == '\t' || (0x20 ≤ c.toNat && c.toNat ≤ 0x7E) || 0x80 ≤ c.toNat

def check (token : Token) : Reader Unit :=
  match token.kind with
  | .comment =>
      let good := (token.text.takeWhile isCommentChar).length
      if good < token.text.length then fail (.point (token.start + good)) .commentCharacter else pure ()
  | .newline => if token.text == ['\r'] then fail (.point token.stop) .loneReturn else pure ()
  | _ => pure ()

def peek : Reader Token := do
  let cursor ← get
  match cursor.rest with
  | [] => return ⟨.finish, cursor.finish, []⟩
  | token :: _ => return token

def advance : Reader Unit := do
  let cursor ← get
  match cursor.rest with
  | [] => return
  | token :: rest =>
      set { cursor with rest := rest, passed := if token.isBlank then cursor.passed else token.stop }
      check token

def skipWithin (skips : TokenKind → Bool) : Nat → Reader Unit
  | 0 => return
  | limit + 1 => do
      let token ← peek
      if skips token.kind then
        advance
        skipWithin skips limit

def skip (skips : TokenKind → Bool) : Reader Unit := do
  skipWithin skips (← get).rest.length

def skipBlanks : Reader Unit := skip (· == .blank)

/-- Takes white space, comments and the ends of lines. -/
def skipLines : Reader Unit :=
  skip fun kind => kind == .blank || kind == .comment || kind == .newline

def skipRestOfLine : Reader Unit := do
  skip fun kind => !(kind == .newline || kind == .finish)
  advance

def endLine : Reader Unit := do
  skipBlanks
  let token ← peek
  match token.kind with
  | .newline | .finish => advance
  | .comment => advance; advance
  | _ => fail (.point token.start) .lineNotEnded

/-- Takes the parts of a key behind its first part. The second component tells whether the last part is there. -/
def moreParts : Nat → Reader (DottedKey × Bool)
  | 0 => return ([], true)
  | limit + 1 => do
      skipBlanks
      if (← peek).kind != .sign .dot then return ([], true)
      advance
      skipBlanks
      let token ← peek
      match KeyText.ofToken? token with
      | some part =>
          advance
          let (parts, isWhole) ← moreParts limit
          return (part :: parts, isWhole)
      | none =>
          if token.kind == .sign .dot then
            let (parts, isWhole) ← moreParts limit
            return (.missing token.start :: parts, isWhole)
          else return ([.missing token.start], false)

def headKey : Nat → Reader (DottedKey × Bool)
  | 0 => return ([], false)
  | limit + 1 => do
      skipBlanks
      let token ← peek
      match KeyText.ofToken? token with
      | some part =>
          advance
          let (parts, isWhole) ← moreParts limit
          return (part :: parts, isWhole)
      | none =>
          if token.kind == .sign .dot then
            advance
            let (parts, isWhole) ← headKey limit
            return (.missing token.start :: parts, isWhole)
          else return ([.missing token.start], false)

def entryKey : Reader DottedKey := do
  let token ← peek
  let limit := (← get).rest.length
  match KeyText.ofToken? token with
  | some part =>
      advance
      let (parts, _) ← moreParts limit
      return part :: parts
  | none =>
      let (parts, _) ← moreParts limit
      return .missing token.start :: parts

/-- Takes the closing of a head and gives the place behind it. -/
def headEnd (ofArray : Bool) (close : Token) : Reader Nat := do
  advance
  if !ofArray then return close.stop
  let second ← peek
  if second.kind == .sign .closeBracket then
    advance
    return second.stop
  fail (.point close.stop) (.unclosedTableArray "]")

def head (opening : Token) : Reader Expression := do
  let ofArray := (← peek).kind == .sign .openBracket
  if ofArray then advance
  let (key, isWhole) ← headKey ((← get).rest.length + 1)
  skipBlanks
  let token ← peek
  if token.kind == .sign .closeBracket then
    let stop ← headEnd ofArray token
    endLine
    return .head ofArray ⟨opening.start, stop⟩ key
  else if isWhole then
    fail (.point (← get).passed) (if ofArray then .unclosedTableArray "]]" else .unclosedTable)
  else
    skipRestOfLine
    return .head ofArray opening.span key

def isBarePart (token : Token) : Bool :=
  token.kind == .atom || token.kind == .sign .dot

/-- The tokens of a value without quotes, in front of others. Blanks belong to it where it goes on behind them. -/
def bareTokens : List Token → List Token
  | [] => []
  | token :: rest =>
      let continues := match rest with
        | next :: _ => isBarePart next
        | [] => false
      if isBarePart token || (token.isBlank && continues) then token :: bareTokens rest else []

def bareValue (first : Token) : Reader ValueText := do
  let cursor ← get
  let tokens := bareTokens cursor.rest
  let text := tokens.flatMap (·.text)
  let stop := first.start + text.length
  set { cursor with rest := cursor.rest.drop tokens.length, passed := stop }
  return .scalar none ⟨first.start, stop⟩ text

/-- Takes the sign between a key and its value in an inline table. -/
def entryEquals : Reader Unit := do
  skipLines
  let token ← peek
  match token.kind with
  | .sign .equals => advance
  | .finish => fail token.span .unclosedInlineTable
  | .sign .comma => fail (.point token.start) (.extraCommaInTable .equals)
  | .sign .closeBracket => fail (.point token.start) .arrayNotOpened
  | _ => fail (.point token.start) (.missingInTable .equals)

/-- Checks that a value can begin in an inline table. -/
def entryValueStart : Reader Unit := do
  let token ← peek
  match token.kind with
  | .finish => fail token.span .unclosedInlineTable
  | .sign .comma => fail (.point token.start) (.extraCommaInTable .value)
  | .sign .equals => fail token.span (.extraEqualsInTable .value)
  | .sign .closeBracket => fail (.point token.start) .arrayNotOpened
  | .sign .closeBrace => fail (.point token.start) (.missingInTable .value)
  | _ => return

mutual

/-- Takes a value. `depth` is how many more arrays and inline tables may be opened around each other. -/
def value (limit depth : Nat) : Reader ValueText :=
  match limit with
  | 0 => return .scalar none (.point 0) []
  | limit + 1 => do
      skipBlanks
      let token ← peek
      match token.kind with
      | .comment | .newline | .finish | .sign .comma | .blank => return .scalar none (.point token.start) []
      | .sign .equals => fail token.span .extraEquals
      | .sign .closeBrace => fail (.point token.start) .inlineTableNotOpened
      | .sign .closeBracket => fail (.point token.start) .arrayNotOpened
      | .string style =>
          advance
          return .scalar (some style) token.span token.text
      | .atom | .sign .dot => bareValue token
      | .sign .openBracket =>
          advance
          match depth with
          | 0 => fail token.span .tooDeep
          | depth + 1 =>
              let (items, stop) ← arrayItems limit depth false
              return .array ⟨token.start, stop⟩ items
      | .sign .openBrace =>
          advance
          match depth with
          | 0 => fail token.span .tooDeep
          | depth + 1 =>
              let (entries, stop) ← tableEntries limit depth
              return .table ⟨token.start, stop⟩ entries

/-- Takes the items of an array with its closing bracket, and gives the place behind that. -/
def arrayItems (limit depth : Nat) (needsComma : Bool) : Reader (List ValueText × Nat) :=
  match limit with
  | 0 => return ([], 0)
  | limit + 1 => do
      skipLines
      let token ← peek
      match token.kind with
      | .finish => fail token.span .unclosedArray
      | .sign .equals => fail token.span .equalsInArray
      | .sign .closeBracket =>
          advance
          return ([], token.stop)
      | .sign .comma =>
          if needsComma then
            advance
            arrayItems limit depth false
          else fail token.span .extraCommaInArray
      | _ =>
          if needsComma then fail (.point token.start) .missingCommaInArray
          let item ← value limit depth
          let (items, stop) ← arrayItems limit depth true
          return (item :: items, stop)

/-- Takes the entries of an inline table with its closing brace, and gives the place behind that. -/
def tableEntries (limit depth : Nat) : Reader (List (DottedKey × ValueText) × Nat) :=
  match limit with
  | 0 => return ([], 0)
  | limit + 1 => do
      skipLines
      let token ← peek
      match token.kind with
      | .finish => fail token.span .unclosedInlineTable
      | .sign .comma => fail (.point token.start) (.extraCommaInTable .key)
      | .sign .closeBracket => fail (.point token.start) .arrayNotOpened
      | .sign .openBracket | .sign .openBrace => fail (.point token.start) (.missingInTable .key)
      | .sign .closeBrace =>
          advance
          return ([], token.stop)
      | _ =>
          let key ← entryKey
          entryEquals
          skipLines
          entryValueStart
          let content ← value limit depth
          skipLines
          let next ← peek
          match next.kind with
          | .finish => fail next.span .unclosedInlineTable
          | .sign .closeBrace =>
              advance
              return ([(key, content)], next.stop)
          | .sign .comma =>
              advance
              let (entries, stop) ← tableEntries limit depth
              return ((key, content) :: entries, stop)
          | .sign .equals => fail next.span (.extraEqualsInTable .comma)
          | .sign .closeBracket => fail (.point next.start) .arrayNotOpened
          | _ => fail (.point next.start) (.missingInTable .comma)

end

/-- How many arrays and inline tables may be open at once. -/
def deepest : Nat := 80

def entryValue (key : DottedKey) : Reader Expression := do
  let content ← value (2 * (← get).rest.length + 2) deepest
  endLine
  return .entry key content

def entry : Reader Expression := do
  let startsWithDot := (← peek).kind == .sign .dot
  let key ← entryKey
  skipBlanks
  let token ← peek
  if token.kind == .sign .equals then
    advance
    entryValue key
  else fail (.point token.start) (if startsWithDot then .dottedKeyWithoutValue else .keyWithoutValue)

def expressions : Nat → Reader (List Expression)
  | 0 => return []
  | limit + 1 => do
      skipLines
      let token ← peek
      match token.kind with
      | .finish => return []
      | .sign .openBracket =>
          advance
          let first ← head token
          return first :: (← expressions limit)
      | .sign .closeBracket => fail (.point token.start) .tableNotOpened
      | .sign .comma | .sign .openBrace | .sign .closeBrace => fail (.point token.start) .keyExpected
      | _ =>
          let first ← entry
          return first :: (← expressions limit)

end Reader

def Expression.all (text : List Char) : Except Flaw (List Expression) :=
  let tokens := Token.all text
  ((Reader.expressions (tokens.length + 1)).run ⟨tokens, 0, text.length⟩).map (·.1)

end Companion.Toml
