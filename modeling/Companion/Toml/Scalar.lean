import Companion.Decimal.Binary64
import Companion.Text.Blank
import Companion.Toml.DateTime
import Companion.Toml.StringValue

set_option autoImplicit false

namespace Companion.Toml

/-- A scalar. Integers that take more than 128 bits, and finite numbers that are beyond the greatest float, have no
value. -/
inductive Scalar where
  | string (value : String)
  | boolean (value : Bool)
  | integer (value : Option Int)
  | float (text : Option String)
  | dateTime
  deriving DecidableEq, Repr

namespace Scalar

/-- A scalar without quotes, with the place of its first character. -/
structure Bare where
  start : Nat
  text : List Char
  deriving DecidableEq, Repr

namespace Bare

def span (bare : Bare) : Span := ⟨bare.start, bare.start + bare.text.length⟩

def placeOf (bare : Bare) (tail : List Char) : Nat :=
  bare.start + (bare.text.length - tail.length)

def fail {α : Type} (span : Span) (malformation : Malformation) : Except Flaw α :=
  .error (.malformed span malformation)

def holds (bare : Bare) (c : Char) : Bool := bare.text.contains c

/-- The quotes in which text can end that lacks its opening quotes, the longest first. -/
def closings : List String := ["'''", "\"\"\"", "'", "\""]

def unquoted {α : Type} (bare : Bare) : Except Flaw α :=
  match closings.find? fun quote => quote.toList.isSuffixOf bare.text with
  | some quote => fail (.point bare.start) (.unopenedString quote)
  | none => fail bare.span .unquotedText

def word (bare : Bare) (sort expected : String) (value : Scalar) : Except Flaw Scalar :=
  if bare.text == expected.toList then .ok value
  else if bare.holds ' ' then bare.unquoted
  else fail bare.span (.wordExpected sort expected)

def isDigitPart (c : Char) : Bool := c.isDigit || c == '_'

def passDigits (bare : Bare) (part : String) (zerosInFront : Bool) (text : List Char) :
    Except Flaw (List Char) :=
  let run := text.takeWhile isDigitPart
  let place := bare.placeOf text
  match run.countP Char.isDigit with
  | 0 => fail (.point place) (.partWithoutDigits part)
  | 1 => .ok (text.drop run.length)
  | _ =>
      if run.head? == some '0' && !zerosInFront then fail ⟨place, place + 1⟩ .leadingZero
      else .ok (text.drop run.length)

def passFraction (bare : Bare) (text : List Char) : Except Flaw (List Char) :=
  match text with
  | '.' :: rest => bare.passDigits "fraction" true rest
  | _ => .ok text

def passExponent (bare : Bare) (text : List Char) : Except Flaw (List Char) :=
  match text with
  | c :: rest =>
      if c == 'e' || c == 'E' then
        match rest with
        | '+' :: more | '-' :: more => bare.passDigits "exponent" true more
        | _ => bare.passDigits "exponent" true rest
      else .ok text
  | [] => .ok text

def checkFloat (bare : Bare) (text : List Char) : Except Flaw Unit := do
  let rest ← bare.passDigits "mantissa" false text
  let rest ← bare.passFraction rest
  let rest ← bare.passExponent rest
  if rest.isEmpty then return
  fail ⟨bare.placeOf rest, bare.span.stop⟩ .invalidFloat

def checkFront (bare : Bare) (text : List Char) : Except Flaw Unit :=
  let place := bare.placeOf text
  if text.head? == some '0' then fail ⟨place, place + 1⟩ .leadingZero else .ok ()

/-- Checks the text between two separators of digits; it begins at a place of the scalar. -/
def checkGroup (bare : Bare) (isDigit : Char → Bool) (place : Nat) (group : List Char) : Except Flaw Unit := do
  let stop := place + group.length
  let startsWell := (group.head?.map isDigit).getD true
  let endsWell := (group.getLast?.map isDigit).getD true
  if bare.start < place && !startsWell then fail ⟨place - 1, place⟩ .looseUnderscore
  if 1 < group.length && stop < bare.span.stop && !endsWell then fail ⟨stop, stop + 1⟩ .looseUnderscore
  if group.isEmpty && place != bare.start && place != bare.span.stop then fail ⟨place, place + 1⟩ .looseUnderscore

def checkGroups (bare : Bare) (isDigit : Char → Bool) : Nat → List (List Char) → Except Flaw Unit
  | _, [] => .ok ()
  | place, group :: groups => do
      bare.checkGroup isDigit place group
      bare.checkGroups isDigit (place + group.length + 1) groups

def withoutSeparators (bare : Bare) (isDigit : Char → Bool) (text : List Char) : Except Flaw (List Char) := do
  if text.contains '_' then
    if text.head? == some '_' then fail (.point bare.start) .looseUnderscore
    if 1 < text.length && text.getLast? == some '_' then fail (.point bare.span.stop) .looseUnderscore
    bare.checkGroups isDigit (bare.placeOf text) (Text.splitChars (· == '_') text)
  return text.filter (· != '_')

end Bare

def digitValue (c : Char) : Nat := (StringValue.hexDigit? c).getD 0

def isDigitOf (radix : Radix) (c : Char) : Bool :=
  (StringValue.hexDigit? c).any (· < radix.base)

def natOf (radix : Radix) (digits : List Char) : Nat :=
  digits.foldl (fun value c => value * radix.base + digitValue c) 0

def leastInteger : Int := -0x80000000000000000000000000000000

def greatestInteger : Int := 0xFFFFFFFFFFFFFFFFFFFFFFFFFFFFFFFF

/-- The integer that a text without separators writes in a base, if it has at most 128 bits. -/
def integerOf? (radix : Radix) (text : List Char) : Option Int :=
  let (isNegative, digits) := match text with
    | '-' :: rest => (true, rest)
    | '+' :: rest => (false, rest)
    | _ => (false, text)
  let value : Int := if isNegative then -(natOf radix digits : Int) else natOf radix digits
  if !digits.isEmpty && digits.all (isDigitOf radix) && leastInteger ≤ value && value ≤ greatestInteger then
    some value
  else none

def signOf (text : List Char) : String × List Char :=
  match text with
  | '-' :: rest => ("-", rest)
  | '+' :: rest => ("", rest)
  | _ => ("", text)

def exponentOf (text : List Char) : Int :=
  match signOf (text.drop 1) with
  | ("-", digits) => -(natOf .decimal digits : Int)
  | (_, digits) => natOf .decimal digits

def floatOf (text : List Char) : Option String :=
  let (sign, number) := signOf text
  let mantissa := number.takeWhile fun c => c != 'e' && c != 'E'
  let exponent := exponentOf (number.drop mantissa.length)
  let whole := mantissa.takeWhile (· != '.')
  let fraction := mantissa.drop (whole.length + 1)
  let decimal : Decimal := ⟨natOf .decimal (whole ++ fraction), exponent - fraction.length⟩
  (Binary64.ofDecimal decimal).map fun number => sign ++ number.render

namespace Bare

def decimalInteger (bare : Bare) (text : List Char) : Except Flaw Scalar :=
  (bare.withoutSeparators Char.isAlphanum text).map fun digits => .integer (integerOf? .decimal digits)

/-- A float; `text` is where its digits begin. -/
def float (bare : Bare) (text : List Char) : Except Flaw Scalar := do
  bare.checkFloat text
  let digits ← bare.withoutSeparators Char.isDigit bare.text
  return .float (floatOf digits)

/-- A number, or a date, whose first character is a digit or a separator of digits. -/
def numberOrDate (bare : Bare) (text : List Char) : Except Flaw Scalar := do
  let rest := text.dropWhile Char.isDigit
  match rest with
  | [] =>
      bare.checkFront text
      bare.decimalInteger bare.text
  | c :: _ =>
      if c == '-' || c == ':' then
        DateTime.check bare.span bare.text
        return .dateTime
      else if rest.contains ' ' then bare.unquoted
      else if rest.any fun d => d == '.' || d == 'e' || d == 'E' then bare.float text
      else if c == '_' then
        bare.checkFront text
        bare.decimalInteger bare.text
      else bare.unquoted

/-- The base that a letter behind a zero names, and whether it is a capital letter. -/
def radixOf? : Char → Option (Radix × Bool)
  | 'x' => some (.hexadecimal, false)
  | 'X' => some (.hexadecimal, true)
  | 'o' => some (.octal, false)
  | 'O' => some (.octal, true)
  | 'b' => some (.binary, false)
  | 'B' => some (.binary, true)
  | 'd' | 'D' => some (.decimal, false)
  | _ => none

def checkRadixDigits (bare : Bare) (radix : Radix) (text : List Char) : Except Flaw Unit := do
  let place := bare.placeOf text
  if text.head? == some '+' || text.head? == some '-' then fail ⟨place, place + 1⟩ .signInRadix
  let good := (text.takeWhile fun c => isDigitOf radix c || c == '_').length
  if good < text.length then fail (.point (place + good)) (.radixDigit radix)

/-- An integer whose base is named; `text` begins with the zero in front of the name. -/
def radixInteger (bare : Bare) (isSigned : Bool) (radix : Radix) (isCapital : Bool) (text : List Char) :
    Except Flaw Scalar := do
  let place := bare.placeOf text
  if isSigned then fail ⟨bare.start, bare.start + 1⟩ .signedRadix
  if isCapital then
    fail ⟨place, place + 2⟩ (.capitalRadix (String.ofList ((text.take 2).map Char.toLower)))
  if radix == .decimal then fail ⟨place, place + 2⟩ .decimalFront
  bare.checkRadixDigits radix (text.drop 2)
  let digits ← bare.withoutSeparators Char.isAlphanum (text.drop 2)
  return .integer (integerOf? radix digits)

def zeroFront (bare : Bare) (isSigned : Bool) (text : List Char) : Except Flaw Scalar :=
  match text with
  | _ :: c :: _ =>
      match radixOf? c with
      | some (radix, isCapital) => bare.radixInteger isSigned radix isCapital text
      | none => bare.numberOrDate text
  | _ => bare.decimalInteger bare.text

def signed (bare : Bare) (text : List Char) : Except Flaw Scalar :=
  let place := bare.placeOf text
  let named (name value : String) : Except Flaw Scalar :=
    if text == name.toList then .ok (.float (some value))
    else fail ⟨place, bare.span.stop⟩ (.wordExpected "float" name)
  match text with
  | [] => bare.unquoted
  | c :: _ =>
      if c == '+' || c == '-' then fail ⟨place, place + 1⟩ .secondNumberSign
      else if c == '0' then bare.zeroFront true text
      else if isDigitPart c then bare.numberOrDate text
      else if c == '.' then bare.float bare.text
      else if c == 'i' || c == 'I' then named "inf" (if bare.text.head? == some '-' then "-inf" else "inf")
      else if c == 'n' || c == 'N' then named "nan" "NaN"
      else bare.unquoted

def decode (bare : Bare) : Except Flaw Scalar :=
  match bare.text with
  | [] => bare.unquoted
  | c :: rest =>
      if c == '+' || c == '-' then bare.signed rest
      else if c == '0' then bare.zeroFront false bare.text
      else if isDigitPart c then bare.numberOrDate bare.text
      else if c == '.' then bare.float bare.text
      else if c == 't' || c == 'T' then bare.word "boolean" "true" (.boolean true)
      else if c == 'f' || c == 'F' then bare.word "boolean" "false" (.boolean false)
      else if c == 'i' || c == 'I' then bare.word "float" "inf" (.float (some "inf"))
      else if c == 'n' || c == 'N' then bare.word "float" "nan" (.float (some "NaN"))
      else bare.unquoted

end Bare

def decode (style : Option StringStyle) (span : Span) (text : List Char) : Except Flaw Scalar :=
  match style with
  | some style => (StringValue.ofQuoted style span text).map .string
  | none => (Bare.mk span.start text).decode

end Scalar

end Companion.Toml
