import Companion.Log.Event
import Companion.Text.Property

/-!
Filters on events. A filter is a list of directives such as `warn`, `extractfield_core=debug` or
`[name\x7bfield\x7d]=trace`, separated by commas; for an event, the most specific directive about its origin decides.
-/

set_option autoImplicit false

namespace Companion.Log

/-- A field that a directive asks for, perhaps with a value. -/
structure FieldMatch where
  name : String
  value : Option String
  deriving DecidableEq, Repr

/-- A threshold for the events that come from some origin, stand in some span, and carry some fields. -/
structure Directive where
  origin : Option String
  span : Option String
  fields : List FieldMatch
  level : Level
  deriving DecidableEq, Repr

namespace Level

/-- The level of a number, from zero for `off` to five for `trace`. -/
def ofNumber? : Nat → Option Level
  | 0 => some off
  | 1 => some error
  | 2 => some warn
  | 3 => some info
  | 4 => some debug
  | 5 => some trace
  | _ => none

/-- The number that decimal digits write, perhaps behind a plus sign. -/
def numberOf? (text : List Char) : Option Nat :=
  let digits := match text with
    | '+' :: rest => rest
    | _ => text
  if digits.isEmpty || !digits.all Char.isDigit then none
  else some (digits.foldl (fun number c => number * 10 + (c.toNat - '0'.toNat)) 0)

/-- The level of a directive: a number or a name. Without a text it is `error`. -/
def ofDirectiveText? (text : String) : Option Level :=
  if text.isEmpty then some error
  else
    match numberOf? text.toList with
    | some number => ofNumber? number
    | none => all.find? fun level => level.name == Text.lowerAscii text

end Level

namespace Directive

def ofLevel (level : Level) : Directive := ⟨none, none, [], level⟩

def mayStart (c : Char) : Bool :=
  c == '-' || c == ':' || c.isAlphanum || Text.continuesIdentifier c

/-- The level behind an equals sign, where no text stands for everything. -/
def levelAfter (directive : Directive) (text : List Char) : Option Directive :=
  if text.isEmpty then some { directive with level := .trace }
  else (Level.ofDirectiveText? (String.ofList text)).map fun level => { directive with level := level }

def afterSpan (directive : Directive) : List Char → Option Directive
  | [] => some directive
  | '=' :: text => directive.levelAfter text
  | _ => none

def fieldOf (text : List Char) : FieldMatch :=
  match Text.splitChars (· == '=') text with
  | name :: value :: _ => ⟨String.ofList name, some (String.ofList value)⟩
  | _ => ⟨String.ofList text, none⟩

/-- Reads the span and what follows it, from behind the opening bracket. -/
def withSpan (directive : Directive) (text : List Char) : Option Directive :=
  let name := text.takeWhile fun c => c ≠ ']' && c ≠ '\x7b'
  match text.drop name.length with
  | ']' :: rest => afterSpan { directive with span := some (String.ofList name) } rest
  | _ :: rest =>
      let field := rest.takeWhile (· ≠ '\x7d')
      let span := if name.isEmpty then none else some (String.ofList name)
      match rest.drop field.length with
      | _ :: ']' :: rest =>
          if field.isEmpty then none
          else afterSpan { directive with span := span, fields := [fieldOf field] } rest
      | _ => none
  | [] => none

/-- Reads one directive. A text that is neither a level nor has a level names an origin of which everything passes. -/
def read (text : String) : Option Directive :=
  let everything := ofLevel .trace
  match text.toList with
  | [] => none
  | '[' :: rest => everything.withSpan rest
  | first :: rest =>
      if mayStart first then
        let whole := first :: rest
        let name := whole.takeWhile fun c => c ≠ '=' && c ≠ '['
        let directive := { everything with origin := some (String.ofList name) }
        match whole.drop name.length with
        | '=' :: level => directive.levelAfter level
        | '[' :: span => directive.withSpan span
        | _ =>
            match Level.ofDirectiveText? text with
            | some level => some (ofLevel level)
            | none => some directive
      else none

/-- Whether the directive holds for events as such and not only inside spans or for certain values. -/
def isStatic (directive : Directive) : Bool :=
  directive.span.isNone && directive.fields.all fun field => field.value.isNone

def isDynamic (directive : Directive) : Bool :=
  directive.span.isSome || !directive.fields.isEmpty

/-- A directive that holds for events as such asks for the names of fields only. -/
def toStatic (directive : Directive) : Directive :=
  { directive with span := none }

def compareTexts (left right : Option String) : Ordering :=
  match left, right with
  | none, none => .eq
  | none, some _ => .lt
  | some _, none => .gt
  | some left, some right => compare left right

def compareFields : List FieldMatch → List FieldMatch → Ordering
  | [], [] => .eq
  | [], _ :: _ => .lt
  | _ :: _, [] => .gt
  | left :: lefts, right :: rights =>
      (compare left.value.isSome.toNat right.value.isSome.toNat).then
        ((compare left.name right.name).then
          ((compareTexts left.value right.value).then (compareFields lefts rights)))

/-- The length of an origin, where having none is shorter than any. -/
def originLength (directive : Directive) : Nat :=
  match directive.origin with
  | none => 0
  | some origin => origin.utf8ByteSize + 1

/-- Compares directives by how specific they are: by the length of the origin, then by whether there is a span, then
by the number of fields; equally specific ones are ordered by their texts. -/
def specificity (left right : Directive) : Ordering :=
  (compare left.originLength right.originLength).then
    ((compare left.span.isSome.toNat right.span.isSome.toNat).then
      ((compare left.fields.length right.fields.length).then
        ((compareTexts left.origin right.origin).then
          ((compareTexts left.span right.span).then (compareFields left.fields right.fields)))))

/-- Puts a directive among others, the most specific first. It replaces one that says the same of other levels. -/
def insertInto : List Directive → Directive → List Directive
  | [], new => [new]
  | old :: others, new =>
      match specificity new old with
      | .gt => new :: old :: others
      | .eq => new :: others
      | .lt => old :: insertInto others new

def concerns (directive : Directive) (event : Event) : Bool :=
  (match directive.origin with
    | none => true
    | some origin => Text.startsWith event.origin.toList origin.toList)
    && directive.fields.all fun field =>
        field.name == "message" || event.values.any fun value => value.1 == field.name

def renderField (field : FieldMatch) : String :=
  match field.value with
  | none => field.name
  | some value => field.name ++ "=" ++ value

/-- The text of what a directive asks for beyond the origin. -/
def renderSpan (directive : Directive) : String :=
  if directive.isDynamic then
    let fields :=
      if directive.fields.isEmpty then ""
      else "\x7b" ++ String.intercalate "," (directive.fields.map renderField) ++ "\x7d"
    "[" ++ directive.span.getD "" ++ fields ++ "]"
  else ""

def render (directive : Directive) : String :=
  let about := directive.origin.getD "" ++ directive.renderSpan
  let separator := if directive.origin.isSome || directive.isDynamic then "=" else ""
  about ++ separator ++ directive.level.name

end Directive

/-- A filter: the directives on events as such, and those on spans, each the most specific first. -/
structure Filter where
  statics : List Directive
  dynamics : List Directive
  deriving DecidableEq, Repr

namespace Filter

def ofLevel (level : Level) : Filter := ⟨[.ofLevel level], []⟩

/-- The filter of several directives. Without any, errors pass. -/
def ofDirectives (directives : List Directive) : Filter :=
  let dynamics := directives.filter Directive.isDynamic
  let plain := directives.filter fun directive => !directive.isDynamic
  let statics := (plain ++ dynamics.filter Directive.isStatic).map Directive.toStatic
  let filter : Filter :=
    ⟨statics.foldl Directive.insertInto [], dynamics.foldl Directive.insertInto []⟩
  if filter.statics.isEmpty && filter.dynamics.isEmpty then ofLevel .error else filter

/-- Reads directives separated by commas. One that cannot be read makes the whole unreadable. -/
def read? (text : String) : Option Filter :=
  (((Text.split (· == ',') text).filter (· ≠ "")).mapM Directive.read).map ofDirectives

def choose (environment : Option String) (level : Level) : Filter :=
  (environment.bind read?).getD (ofLevel level)

/-- Whether an event passes: the most specific directive that concerns it decides. Events stand in no span. -/
def admits (filter : Filter) (event : Event) : Bool :=
  match filter.statics.find? fun directive => directive.concerns event with
  | some directive => directive.level.admits event.level
  | none => false

def render (filter : Filter) : String :=
  String.intercalate "," ((filter.statics ++ filter.dynamics).map Directive.render)

end Filter

end Companion.Log
