import Companion.Text.Quoted
import Companion.Toml.Token

/-!
What can be wrong with a TOML text. A text is *malformed* when it breaks a rule of the format; it is *unsuitable* when
it is well formed but its values are not those that were asked for.

`Flaw.message` shows the line with the fault and marks the faulty stretch in it.
-/

set_option autoImplicit false

namespace Companion.Toml

inductive Radix where
  | binary
  | octal
  | decimal
  | hexadecimal
  deriving DecidableEq, Repr

namespace Radix

def base : Radix → Nat
  | binary => 2
  | octal => 8
  | decimal => 10
  | hexadecimal => 16

def name : Radix → String
  | binary => "binary"
  | octal => "octal"
  | decimal => "integer"
  | hexadecimal => "hexadecimal"

end Radix

inductive DatePart where
  | date
  | dateTime
  | time
  | offset
  deriving DecidableEq, Repr

def DatePart.name : DatePart → String
  | date => "date"
  | dateTime => "date-time"
  | time => "time"
  | offset => "offset"

inductive EntryNeed where
  | key
  | equals
  | value
  | comma
  deriving DecidableEq, Repr

inductive Expectation where
  | sign (text : String)
  | lineEnd
  | thing (name : String)
  deriving DecidableEq, Repr

def Expectation.render : Expectation → String
  | sign text => "`" ++ text ++ "`"
  | lineEnd => "newline"
  | thing name => name

def EntryNeed.expectation : EntryNeed → Expectation
  | key => .thing "key"
  | equals => .sign "="
  | value => .thing "value"
  | comma => .sign ","

/-- The rules of the format that a text can break. -/
inductive Malformation where
  -- lines
  | unclosedTable
  | unclosedTableArray (missing : String)
  | tableNotOpened
  | keyExpected
  | keyWithoutValue
  | dottedKeyWithoutValue
  | lineNotEnded
  | loneReturn
  | commentCharacter
  -- values
  | extraEquals
  | arrayNotOpened
  | unclosedArray
  | extraCommaInArray
  | equalsInArray
  | missingCommaInArray
  | inlineTableNotOpened
  | unclosedInlineTable
  | extraCommaInTable (need : EntryNeed)
  | extraEqualsInTable (need : EntryNeed)
  | missingInTable (need : EntryNeed)
  | tooDeep
  -- keys
  | emptyKey
  | keyCharacter
  | blockAsKey (style : StringStyle)
  | duplicateKey
  | closedToKeys (owner : String)
  -- strings
  | unclosedString (style : StringStyle)
  | stringCharacter (style : StringStyle)
  | unknownEscape
  | fewEscapeDigits
  | noSuchCharacter
  | foldWithoutLineEnd
  -- bare values
  | unquotedText
  | unopenedString (quote : String)
  | wordExpected (sort word : String)
  | invalidFloat
  | partWithoutDigits (part : String)
  | secondNumberSign
  | signInRadix
  | signedRadix
  | capitalRadix (front : String)
  | decimalFront
  | leadingZero
  | looseUnderscore
  | radixDigit (radix : Radix)
  | dateTime (part : Option DatePart) (expected : Option String)
  deriving DecidableEq, Repr

namespace StringStyle

def name : StringStyle → String
  | basic => "basic string"
  | literal => "literal string"
  | basicBlock => "multi-line basic string"
  | literalBlock => "multi-line literal string"

def content : StringStyle → List Expectation
  | basic => [.thing "non-double-quote visible characters", .sign "\\"]
  | literal => [.thing "non-single-quote visible characters"]
  | basicBlock => [.thing "printable characters", .sign "\\"]
  | literalBlock => [.thing "non-single-quote characters"]

end StringStyle

namespace Malformation

def what : Malformation → String
  | unclosedTable => "unclosed table"
  | unclosedTableArray _ => "unclosed array table"
  | tableNotOpened => "missing table open"
  | keyExpected => "invalid key"
  | keyWithoutValue => "key with no value"
  | dottedKeyWithoutValue => "missing value for key"
  | lineNotEnded => "unexpected key or value"
  | loneReturn => "carriage return must be followed by newline"
  | commentCharacter => "invalid comment character"
  | extraEquals => "extra `=`"
  | arrayNotOpened => "missing array opening"
  | unclosedArray => "unclosed array"
  | extraCommaInArray => "extra comma in array"
  | equalsInArray => "unexpected `=` in array"
  | missingCommaInArray => "missing comma between array elements"
  | inlineTableNotOpened => "missing inline table opening"
  | unclosedInlineTable => "unclosed inline table"
  | extraCommaInTable _ => "extra comma in inline table"
  | extraEqualsInTable _ => "extra assignment between key-value pairs"
  | missingInTable .key => "missing key for inline table element"
  | missingInTable .equals => "missing assignment between key-value pairs"
  | missingInTable .value => "missing value for inline table element"
  | missingInTable .comma => "missing comma between key-value pairs"
  | tooDeep => "cannot recurse further; max recursion depth met"
  | emptyKey => "unquoted keys cannot be empty"
  | keyCharacter => "invalid unquoted key"
  | blockAsKey style => "keys cannot be " ++ style.name ++ "s"
  | duplicateKey => "duplicate key"
  | closedToKeys owner => "cannot extend value of type " ++ owner ++ " with a dotted key"
  | unclosedString style | stringCharacter style => "invalid " ++ style.name
  | unknownEscape => "missing escaped value"
  | fewEscapeDigits => "too few unicode value digits"
  | noSuchCharacter => "invalid value"
  | foldWithoutLineEnd => "invalid multi-line basic string"
  | unquotedText => "string values must be quoted"
  | unopenedString _ => "missing opening quote"
  | wordExpected sort _ => "invalid " ++ sort
  | invalidFloat => "invalid float"
  | partWithoutDigits part => "invalid " ++ part
  | secondNumberSign => "redundant numeric sign"
  | signInRadix => "unexpected sign"
  | signedRadix => "integers with a radix cannot be signed"
  | capitalRadix _ => "radix must be lowercase"
  | decimalFront => "redundant integer number prefix"
  | leadingZero => "unexpected leading zero"
  | looseUnderscore => "`_` may only go between digits"
  | radixDigit radix => "invalid " ++ radix.name ++ " number"
  | dateTime part _ => "invalid " ++ ((part.map DatePart.name).getD "datetime")

/-- What might stand at the faulty place; `none` if nothing is said about that. -/
def expectations : Malformation → Option (List Expectation)
  | unclosedTable => some [.sign "]"]
  | unclosedTableArray missing => some [.sign missing]
  | tableNotOpened | arrayNotOpened => some [.sign "["]
  | keyExpected => some [.thing "key"]
  | keyWithoutValue | dottedKeyWithoutValue => some [.sign "="]
  | lineNotEnded => some [.lineEnd, .sign "#"]
  | loneReturn | foldWithoutLineEnd => some [.lineEnd]
  | commentCharacter => some [.thing "printable characters"]
  | unclosedArray => some [.sign "]"]
  | extraCommaInArray => some [.thing "value"]
  | equalsInArray => some [.thing "value", .sign "]"]
  | missingCommaInArray => some [.sign ","]
  | inlineTableNotOpened => some [.sign "\x7b"]
  | unclosedInlineTable => some [.sign "\x7d"]
  | extraCommaInTable need | extraEqualsInTable need | missingInTable need => some [need.expectation]
  | emptyKey | keyCharacter => some [.thing "letters", .thing "numbers", .sign "-", .sign "_"]
  | blockAsKey _ => some [.thing "basic string", .thing "literal string"]
  | unclosedString style => some [.sign style.quote.toString]
  | stringCharacter style => some style.content
  | unknownEscape => some (["b", "e", "f", "n", "r", "\\", "\"", "x", "u", "U"].map .sign)
  | fewEscapeDigits | noSuchCharacter => some [.thing "unicode hexadecimal value"]
  | unquotedText => some [.thing "literal string"]
  | unopenedString quote => some [.sign quote]
  | wordExpected _ word => some [.sign word]
  | partWithoutDigits _ => some [.thing "digits"]
  | capitalRadix front => some [.sign front]
  | dateTime _ expected => expected.map fun name => [.thing name]
  | extraEquals | invalidFloat | secondNumberSign | signInRadix | signedRadix | decimalFront | leadingZero
  | looseUnderscore => some []
  | tooDeep | duplicateKey | closedToKeys _ | radixDigit _ => none

def message (malformation : Malformation) : String :=
  match malformation.expectations with
  | none => malformation.what
  | some [] => malformation.what ++ ", expected nothing"
  | some expected => malformation.what ++ ", expected " ++ String.intercalate ", " (expected.map Expectation.render)

end Malformation

inductive Found where
  | boolean (value : Bool)
  /-- An integer of at most 64 bits. -/
  | integer (value : Int)
  /-- An integer that takes more, and the name of the type that holds it. -/
  | wideInteger (value : Int) (holder : String)
  | float (text : String)
  | string (value : String)
  | sequence
  | map
  deriving DecidableEq, Repr

def Found.render : Found → String
  | boolean value => "boolean `" ++ (if value then "true" else "false") ++ "`"
  | integer value => "integer `" ++ toString value ++ "`"
  | wideInteger value holder => "integer `" ++ toString value ++ "` as " ++ holder
  | float text => "floating point `" ++ text ++ "`"
  | string value => "string " ++ Text.quoted value
  | sequence => "sequence"
  | map => "map"

/-- How well-formed values can miss what was asked for. -/
inductive Mismatch where
  | wrongType (found : Found) (wanted : String)
  | integerOverflow
  | floatOverflow
  | unknownVariant (name : String) (known : List String)
  | unknownField (name : String) (known : List String)
  | notVariant
  | noVariant
  | manyVariants
  | filledVariant (wanted : String)
  deriving DecidableEq, Repr

def choice : List String → String
  | [] => "there are no names"
  | [one] => "expected `" ++ one ++ "`"
  | [one, other] => "expected `" ++ one ++ "` or `" ++ other ++ "`"
  | several => "expected one of " ++ String.intercalate ", " (several.map fun name => "`" ++ name ++ "`")

def Mismatch.message : Mismatch → String
  | wrongType found wanted => "invalid type: " ++ found.render ++ ", expected " ++ wanted
  | integerOverflow => "integer number overflowed"
  | floatOverflow => "floating-point number overflowed"
  | unknownVariant name known => "unknown variant `" ++ name ++ "`, " ++ choice known
  | unknownField name known => "unknown field `" ++ name ++ "`, " ++ choice known
  | notVariant => "wanted string or table"
  | noVariant => "wanted exactly 1 element, found 0 elements"
  | manyVariants => "wanted exactly 1 element, more than 1 element"
  | filledVariant wanted => "expected " ++ wanted

inductive Fault where
  | malformed (malformation : Malformation)
  | unsuitable (mismatch : Mismatch)
  deriving DecidableEq, Repr

def Fault.message : Fault → String
  | malformed malformation => malformation.message
  | unsuitable mismatch => mismatch.message

/-- A reason to refuse a text, and the stretch that is at fault. -/
structure Flaw where
  span : Span
  fault : Fault
  deriving DecidableEq, Repr

namespace Flaw

def malformed (span : Span) (malformation : Malformation) : Flaw := ⟨span, .malformed malformation⟩

def unsuitable (span : Span) (mismatch : Mismatch) : Flaw := ⟨span, .unsuitable mismatch⟩

def isMalformed (flaw : Flaw) : Bool :=
  match flaw.fault with
  | .malformed _ => true
  | .unsuitable _ => false

end Flaw

/-- A line of a text that is shown with a mark: its number and the width of the mark's margin, both from zero, and its
text. -/
structure Excerpt where
  line : Nat
  column : Nat
  content : List Char
  deriving DecidableEq, Repr

def octetsOf (text : List Char) : Nat :=
  (String.ofList text).utf8ByteSize

/-- The excerpt for a place. The end of a text belongs to the line of its last character. Columns count characters; the
column of a character outside ASCII is the number of octets in front of it in its line. -/
def Excerpt.ofPlace (text : List Char) (place : Nat) : Excerpt :=
  let inner := min place (text.length - 1)
  let before := text.take inner
  let start := (before.reverse.dropWhile (· != '\n')).length
  let front := before.drop start
  let column := match text[inner]? with
    | some c => if place == inner && 127 < c.toNat then octetsOf front else front.length
    | none => front.length
  ⟨before.count '\n', column + (place - inner), (text.drop start).takeWhile (· != '\n')⟩

namespace Flaw

def blanks (count : Nat) : String := String.ofList (List.replicate count ' ')

def headline (flaw : Flaw) (text : String) : String :=
  let excerpt := Excerpt.ofPlace text.toList flaw.span.start
  "TOML parse error at line " ++ toString (excerpt.line + 1) ++ ", column " ++ toString (excerpt.column + 1)

/-- The mark below the faulty stretch. It does not go beyond the line and is never empty. -/
def mark (flaw : Flaw) (text : List Char) (excerpt : Excerpt) : String :=
  let stretch := (text.drop flaw.span.start).take (flaw.span.stop - flaw.span.start)
  let width := min (octetsOf stretch) (octetsOf excerpt.content - excerpt.column)
  String.ofList (List.replicate (max 1 width) '^')

def message (flaw : Flaw) (text : String) : String :=
  let excerpt := Excerpt.ofPlace text.toList flaw.span.start
  let number := toString (excerpt.line + 1)
  let margin := blanks (number.length + 1) ++ "|"
  flaw.headline text ++ "\n" ++ margin ++ "\n" ++ number ++ " | " ++ String.ofList excerpt.content ++ "\n"
    ++ margin ++ blanks (excerpt.column + 1) ++ flaw.mark text.toList excerpt ++ "\n" ++ flaw.fault.message ++ "\n"

end Flaw

end Companion.Toml
