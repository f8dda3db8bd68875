import Companion.Syntax.Error
import Companion.Syntax.Lexeme

/-!
Reading a sequence of token trees. A stream holds the trees that are left in the innermost open group, and writes the
canonical spelling of what has been read: the words of the text with single spaces between them, operators of several
signs in one word.

`Parser` is a function from a stream to a value and the stream behind it. The primitive parsers are those for words,
signs, lifetimes, literals and groups; everything else is put together from them.
-/

set_option autoImplicit false

namespace Companion.Syntax

/-- What is left to read in the innermost group, and what was written of it. -/
structure Stream where
  /-- The trees that are left. -/
  trees : List Tree
  /-- Where the group closes; the end of the text counts as its front. -/
  closing : Position
  /-- The first tree that was left over at the end of a group, and the group's delimiter. -/
  leftOver : Option (Position × Delimiter)
  /-- The words written so far, last word first. -/
  written : List String
  deriving Repr

def Stream.ofTrees (trees : List Tree) : Stream := ⟨trees, .start, none, []⟩

def Stream.place (stream : Stream) : Position :=
  match stream.trees with
  | tree :: _ => tree.place
  | [] => stream.closing

abbrev Parser (α : Type) := StateT Stream (Except SyntaxError) α

abbrev Look := List Tree → Bool

namespace Look

def atEnd : Look := List.isEmpty

def word (text : String) : Look
  | .word found _ :: _ => found == text
  | _ => false

def oneOf (texts : List String) : Look
  | .word found _ :: _ => texts.contains found
  | _ => false

def anyWord : Look
  | .word _ _ :: _ => true
  | _ => false

def keywords : List String :=
  ["_", "abstract", "as", "async", "await", "become", "box", "break", "const", "continue", "crate", "do",
    "dyn", "else", "enum", "extern", "false", "final", "fn", "for", "if", "impl", "in", "let", "loop",
    "macro", "match", "mod", "move", "mut", "override", "priv", "pub", "ref", "return", "Self", "self",
    "static", "struct", "super", "trait", "true", "try", "type", "typeof", "unsafe", "unsized", "use",
    "virtual", "where", "while", "yield"]

def identifier : Look
  | .word found _ :: _ => !keywords.contains found
  | _ => false

/-- Whether the signs of an operator stand next. All but the last must be joint. -/
def signs : List Char → Look
  | [], _ => true
  | [c], .sign found _ _ :: _ => found == c && c != '\''
  | c :: others, .sign found joint _ :: rest => found == c && joint && signs others rest
  | _ :: _, _ => false

def sign (text : String) : Look := signs text.toList

def lifetime : Look
  | .lifetime _ _ :: _ => true
  | _ => false

def group (delimiter : Delimiter) : Look
  | .group found _ _ _ :: _ => found == delimiter
  | _ => false

def anyGroup : Look
  | .group _ _ _ _ :: _ => true
  | _ => false

def isNumber (text : String) : Bool :=
  match text.toList with
  | c :: _ => c.isDigit
  | [] => false

/-- Whether a literal stands next; a truth value and a negative number count. -/
def literal : Look
  | .literal _ _ :: _ => true
  | .word text _ :: _ => text == "true" || text == "false"
  | .sign '-' _ _ :: .literal text _ :: _ => isNumber text
  | _ => false

def stringLiteral : Look
  | .literal text _ :: _ =>
      match text.toList with
      | '"' :: _ | 'r' :: _ => true
      | _ => false
  | _ => false

def second (look : Look) : Look := fun trees => look trees.tail

def third (look : Look) : Look := fun trees => look trees.tail.tail

end Look

/-- Something that may stand at a place, and its name in a complaint. -/
structure Alternative where
  look : Look
  name : String

namespace Alternative

def word (text : String) : Alternative := ⟨Look.word text, "`" ++ text ++ "`"⟩

def sign (text : String) : Alternative := ⟨Look.sign text, "`" ++ text ++ "`"⟩

def identifier : Alternative := ⟨Look.identifier, "identifier"⟩

def lifetime : Alternative := ⟨Look.lifetime, "lifetime"⟩

def literal : Alternative := ⟨Look.literal, "literal"⟩

def stringLiteral : Alternative := ⟨Look.stringLiteral, "string literal"⟩

def group : Delimiter → Alternative
  | .parenthesis => ⟨Look.group .parenthesis, "parentheses"⟩
  | .bracket => ⟨Look.group .bracket, "square brackets"⟩
  | .brace => ⟨Look.group .brace, "curly braces"⟩

end Alternative

namespace Parser

variable {α β : Type}

def sees (look : Look) : Parser Bool := fun stream => .ok (look stream.trees, stream)

def place : Parser Position := fun stream => .ok (stream.place, stream)

def complain (place : Position) (complaint : Complaint) : Parser α :=
  fun _ => .error ⟨place, complaint⟩

/-- Complains about the next tree, as something that none of several alternatives describes. -/
def noneOf (names : List String) : Parser α := fun stream =>
  .error ⟨stream.place, .expected names stream.trees.isEmpty⟩

/-- Complains that nothing that may stand next does. Alternatives that do stand next were ruled out otherwise and are
not named. -/
def expectedOneOf (alternatives : List Alternative) : Parser α := fun stream =>
  noneOf ((alternatives.filter fun other => !other.look stream.trees).map (·.name)) stream

/-- Complains that a rule is broken in front of the next tree. -/
def missing (rule : Rule) : Parser α := fun stream =>
  .error ⟨stream.place, .missing rule stream.trees.isEmpty⟩

def broken (place : Position) (rule : Rule) : Parser α := complain place (.broken rule)

def write (word : String) : Parser Unit := fun stream =>
  .ok ((), { stream with written := word :: stream.written })

def writeAll (words : List String) : Parser Unit := fun stream =>
  .ok ((), { stream with written := words.reverse ++ stream.written })

def skip : Parser Unit := fun stream => .ok ((), { stream with trees := stream.trees.tail })

def word (text : String) : Parser Unit := fun stream =>
  match stream.trees with
  | .word found _ :: rest =>
      if found == text then .ok ((), { stream with trees := rest, written := text :: stream.written })
      else noneOf ["`" ++ text ++ "`"] stream
  | _ => noneOf ["`" ++ text ++ "`"] stream

def anyWord : Parser String := fun stream =>
  match stream.trees with
  | .word found _ :: rest => .ok (found, { stream with trees := rest, written := found :: stream.written })
  | _ => missing .wordExpected stream

def identifier : Parser String := fun stream =>
  match stream.trees with
  | .word found place :: rest =>
      if Look.keywords.contains found then .error ⟨place, .keyword found⟩
      else .ok (found, { stream with trees := rest, written := found :: stream.written })
  | _ => noneOf ["identifier"] stream

def sign (text : String) : Parser Unit := fun stream =>
  if Look.sign text stream.trees then
    .ok ((), { stream with trees := stream.trees.drop text.length, written := text :: stream.written })
  else .error ⟨stream.place, .signExpected text⟩

def lifetime : Parser Unit := fun stream =>
  match stream.trees with
  | .lifetime name _ :: rest =>
      .ok ((), { stream with trees := rest, written := ("'" ++ name) :: stream.written })
  | _ => noneOf ["lifetime"] stream

/-- Reads a literal. The sign of a negative number is written as a word of its own. -/
def literal : Parser Unit := fun stream =>
  match stream.trees with
  | .literal text _ :: rest => .ok ((), { stream with trees := rest, written := text :: stream.written })
  | .sign _ _ _ :: .literal text _ :: rest =>
      if Look.literal stream.trees then
        .ok ((), { stream with trees := rest, written := text :: "-" :: stream.written })
      else noneOf ["literal"] stream
  | .word text _ :: rest =>
      if text == "true" || text == "false" then
        .ok ((), { stream with trees := rest, written := text :: stream.written })
      else noneOf ["literal"] stream
  | _ => noneOf ["literal"] stream

def stringLiteral : Parser Unit := fun stream =>
  if Look.stringLiteral stream.trees then literal stream else noneOf ["string literal"] stream

def underscore : Parser Unit := fun stream =>
  if Look.word "_" stream.trees then word "_" stream else noneOf ["`_`"] stream

/-- Reads a group with a parser for its body. What the parser leaves over is remembered, and is a fault if no other
comes up before the end of the text. -/
def group (delimiter : Delimiter) (body : Parser α) : Parser α := fun stream =>
  match stream.trees with
  | .group found trees _ closed :: rest =>
      if found == delimiter then
        match body ⟨trees, closed, stream.leftOver, []⟩ with
        | .error reason => .error reason
        | .ok (value, inner) =>
            let leftOver := match inner.leftOver, inner.trees with
              | none, tree :: _ => some (tree.place, delimiter)
              | earlier, _ => earlier
            .ok (value, { stream with
              trees := rest
              leftOver := leftOver
              written := delimiter.wrap inner.written.reverse :: stream.written })
      else noneOf [(Alternative.group delimiter).name] stream
  | _ => noneOf [(Alternative.group delimiter).name] stream

/-- Reads any group and keeps its body as it stands. Tells the delimiter. -/
def rawGroup : Parser Delimiter := fun stream =>
  match stream.trees with
  | .group delimiter body _ _ :: rest =>
      .ok (delimiter, { stream with
        trees := rest
        written := delimiter.wrap (Tree.words body) :: stream.written })
  | _ => missing .delimiterExpected stream

/-- Reads all that is left of a group and keeps it as it stands. -/
def remainder : Parser Unit := fun stream =>
  .ok ((), { stream with trees := [], written := (Tree.words stream.trees).reverse ++ stream.written })

def optionalWord (text : String) : Parser Bool := do
  if ← sees (Look.word text) then
    word text
    return true
  return false

def optionalSign (text : String) : Parser Bool := do
  if ← sees (Look.sign text) then
    sign text
    return true
  return false

def optionalLifetime : Parser Bool := do
  if ← sees Look.lifetime then
    lifetime
    return true
  return false

/-- Runs a parser to see what it would read, and reads nothing. -/
def ahead (parser : Parser α) : Parser (Option α) := fun stream =>
  match parser stream with
  | .ok (value, _) => .ok (some value, stream)
  | .error _ => .ok (none, stream)

def attempt (parser : Parser α) : Parser (Option α) := fun stream =>
  match parser stream with
  | .ok (value, after) => .ok (some value, after)
  | .error _ => .ok (none, stream)

/-- Runs a parser and gives the words that it would write, instead of writing them. -/
def captured (parser : Parser α) : Parser (α × List String) := fun stream =>
  match parser { stream with written := [] } with
  | .ok (value, after) => .ok ((value, after.written.reverse), { after with written := stream.written })
  | .error reason => .error reason

def unwritten (parser : Parser α) : Parser α := do
  let (value, _) ← captured parser
  return value

/-- Replaces what was written since an earlier point by the text as it stands. -/
def keepSince (earlier : Stream) : Parser Unit := fun stream =>
  let read := earlier.trees.take (earlier.trees.length - stream.trees.length)
  .ok ((), { stream with written := (Tree.words read).reverse ++ earlier.written })

/-- Repeats a step that gives a value or stops, at most a given number of times. -/
def collectWithin : Nat → Parser (Option α) → Parser (List α)
  | 0, _ => pure []
  | count + 1, step => do
      match ← step with
      | none => return []
      | some value =>
          let others ← collectWithin count step
          return value :: others

def collecting (step : Parser (Option α)) : Parser (List α) := fun stream =>
  collectWithin (stream.trees.length + 1) step stream

/-- Reads values, at most a given number of them, as long as the step between them asks for another. -/
def chainWithin (item : Parser α) (next : Parser Bool) : Nat → Parser (List α)
  | 0 => pure []
  | count + 1 => do
      let value ← item
      if ← next then
        let others ← chainWithin item next count
        return value :: others
      return [value]

/-- Reads one value, and others as long as the step between them asks for another. -/
def chain (item : Parser α) (next : Parser Bool) : Parser (List α) := fun stream =>
  chainWithin item next (stream.trees.length + 1) stream

def itemsUntil (stop : Look) (item : Parser α) : Parser (List α) :=
  collecting do
    if ← sees stop then return none
    return some (← item)

def itemsWhile (goOn : Look) (item : Parser α) : Parser (List α) :=
  itemsUntil (fun trees => !goOn trees) item

/-- A value in a list, the words for it, and whether a separator follows it. -/
structure Piece (α : Type) where
  value : α
  words : List String
  separated : Bool

structure Separation where
  /-- What ends the list where a value could stand. -/
  stop : Look
  /-- What shows, behind a value, that a separator is to be read. -/
  goesOn : Look
  /-- The separator. -/
  separator : String

namespace Separation

def commas : Separation := ⟨Look.atEnd, fun trees => !trees.isEmpty, ","⟩

def commasUpTo (closer : String) : Separation :=
  ⟨Look.sign closer, fun trees => !Look.sign closer trees, ","⟩

/-- Plus signs, where some things can end the list in place of a value. -/
def pluses (stop : Look) : Separation := ⟨stop, Look.sign "+", "+"⟩

end Separation

def piecesWithin (separation : Separation) (item : Parser α) : Nat → Parser (List (Piece α))
  | 0 => pure []
  | count + 1 => do
      if ← sees separation.stop then return []
      let (value, words) ← captured item
      if ← sees separation.goesOn then
        unwritten (sign separation.separator)
        let others ← piecesWithin separation item count
        return ⟨value, words, true⟩ :: others
      return [⟨value, words, false⟩]

def pieces (separation : Separation) (item : Parser α) : Parser (List (Piece α)) := fun stream =>
  piecesWithin separation item (stream.trees.length + 1) stream

def Piece.spelling (separator : String) (piece : Piece α) : List String :=
  if piece.separated then piece.words ++ [separator] else piece.words

/-- Reads a list, writes it, and gives its values. -/
def separated (separation : Separation) (item : Parser α) : Parser (List α) := do
  let found ← pieces separation item
  writeAll (found.flatMap (Piece.spelling separation.separator))
  return found.map (·.value)

/-- The words of a list with some of its pieces in front of the others. A comma is put between the two parts
if none is there. -/
def reordered (isFront : α → Bool) (found : List (Piece α)) : List String :=
  let front := found.filter fun piece => isFront piece.value
  let back := found.filter fun piece => !isFront piece.value
  let open_ := match front.getLast? with
    | some piece => !piece.separated
    | none => false
  let first := front.flatMap (Piece.spelling ",")
  first ++ rest open_ back
where
  /-- The pieces behind those in front; a piece without a comma gets one before the next. -/
  rest (open_ : Bool) : List (Piece α) → List String
    | [] => []
    | piece :: others =>
        (if open_ then [","] else []) ++ Piece.spelling "," piece ++ rest (!piece.separated) others

end Parser

end Companion.Syntax
