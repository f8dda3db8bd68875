import Companion.Command.Usage
import Companion.Config

/-!
Reading the arguments of the command line. Arguments are read from left to right. A flag whose value is a further
argument waits for it, and is settled when the next flag comes or the arguments end; so of two faults the one that is
settled first is told.
-/

set_option autoImplicit false

namespace Companion.Command

inductive Argument where
  /-- Two dashes alone, behind which nothing is a flag. -/
  | separator
  | long (name : String) (value : Option String)
  | short (letter : Char) (value : Option String)
  | plain (text : String)
  deriving DecidableEq, Repr

namespace Argument

/-- The form of an argument that begins with two dashes and goes on. -/
def ofLong (text : List Char) : Argument :=
  let name := text.takeWhile (· != '=')
  match text.drop name.length with
  | _ :: value => .long (String.ofList name) (some (String.ofList value))
  | [] => .long (String.ofList name) none

/-- What is attached to the letter of a flag; a first `=` does not count. -/
def attached (text : List Char) : Option String :=
  match text with
  | [] => none
  | '=' :: value => some (String.ofList value)
  | value => some (String.ofList value)

/-- The form of an argument. A single dash is plain. -/
def ofText (text : String) : Argument :=
  match text.toList with
  | ['-', '-'] => .separator
  | '-' :: '-' :: rest => ofLong rest
  | '-' :: letter :: rest => .short letter (attached rest)
  | _ => .plain text

end Argument

structure Given where
  logLevel : Option Log.Level
  logFile : Option FilePath
  source : Option FilePath
  generatedDirectory : Option FilePath
  language : Option Language
  marker : Option String
  configuration : Option FilePath
  deriving DecidableEq, Repr

namespace Given

def nothing : Given := ⟨none, none, none, none, none, none, none⟩

def has (given : Given) : Flag → Bool
  | .logLevel => given.logLevel.isSome
  | .logFile => given.logFile.isSome
  | .source => given.source.isSome
  | .generatedDirectory => given.generatedDirectory.isSome
  | .language => given.language.isSome
  | .marker => given.marker.isSome
  | .configuration => given.configuration.isSome
  | .version | .help => false

/-- The path that a value is; it must not be empty. -/
def path (flag : Flag) (text : String) : Except Misuse FilePath :=
  if text.isEmpty then .error (.valueMissing flag) else .ok ⟨text⟩

def level (flag : Flag) (text : String) : Except Misuse Log.Level :=
  match Log.Level.ofText? text with
  | some level => .ok level
  | none => .error (.badValue flag text (Log.Level.unknownMessage text))

def languageOf (flag : Flag) (text : String) : Except Misuse Language :=
  match Language.read text with
  | .ok language => .ok language
  | .error name => .error (.badValue flag text (ConfigError.unknownLanguage name).message)

def put (given : Given) (flag : Flag) (text : String) : Except Misuse Given :=
  match flag with
  | .logLevel => (level flag text).map fun level => { given with logLevel := some level }
  | .logFile => (path flag text).map fun path => { given with logFile := some path }
  | .source => (path flag text).map fun path => { given with source := some path }
  | .generatedDirectory => (path flag text).map fun path => { given with generatedDirectory := some path }
  | .language => (languageOf flag text).map fun language => { given with language := some language }
  | .marker => .ok { given with marker := some text }
  | .configuration => (path flag text).map fun path => { given with configuration := some path }
  | .version | .help => .ok given

def set (given : Given) (flag : Flag) (text : String) : Except Misuse Given :=
  if given.has flag then .error (.repeatedFlag flag) else given.put flag text

end Given

inductive Halt where
  | misuse (cause : Misuse)
  | version
  | help (scope : Scope)
  deriving DecidableEq, Repr

/-- What has been read so far, and the flag that is not settled yet, with its value if that has come. -/
structure Reading where
  given : Given
  waiting : Option (Flag × Option String)
  deriving DecidableEq, Repr

namespace Reading

def start : Reading := ⟨.nothing, none⟩

def awaitsValue (reading : Reading) : Bool :=
  match reading.waiting with
  | some (_, none) => true
  | _ => false

def orHalt {α : Type} (result : Except Misuse α) : Except Halt α :=
  result.mapError .misuse

def settle (reading : Reading) : Except Halt Given :=
  match reading.waiting with
  | none => .ok reading.given
  | some (flag, none) => .error (.misuse (.valueMissing flag))
  | some (flag, some text) => orHalt (reading.given.set flag text)

/-- Ends reading for the sake of a flag, once the waiting one is settled. -/
def interrupt (reading : Reading) (halt : Halt) : Except Halt Reading :=
  match reading.settle with
  | .error other => .error other
  | .ok _ => .error halt

def takeValued (reading : Reading) (flag : Flag) (value : Option String) : Except Halt Reading :=
  match reading.settle with
  | .error halt => .error halt
  | .ok given =>
      match value with
      | none => .ok ⟨given, some (flag, none)⟩
      | some text => (orHalt (given.set flag text)).map fun given => ⟨given, none⟩

def take (scope : Scope) (reading : Reading) (flag : Flag) (value : Option String) : Except Halt Reading :=
  match flag with
  | .version => reading.interrupt .version
  | .help => reading.interrupt (.help scope)
  | _ => reading.takeValued flag value

def takeLong (scope : Scope) (reading : Reading) (name : String) (value : Option String) : Except Halt Reading :=
  match scope.ofLong? name, value with
  | none, _ => .error (.misuse (.unexpectedArgument ("--" ++ name)))
  | some flag, some text =>
      if flag.placeholder?.isNone then .error (.misuse (.valueNotWanted flag text))
      else reading.take scope flag value
  | some flag, none => reading.take scope flag none

def takeShort (scope : Scope) (reading : Reading) (letter : Char) (value : Option String) : Except Halt Reading :=
  match scope.ofShort? letter with
  | none => .error (.misuse (.unexpectedArgument ("-" ++ letter.toString)))
  | some flag => reading.take scope flag value

def stray (scope : Scope) (text : String) : Misuse :=
  match scope with
  | .root => .unknownSubcommand text
  | .generate | .check => .unexpectedArgument text

def takePlain (scope : Scope) (reading : Reading) (text : String) : Except Halt Reading :=
  match reading.waiting with
  | some (flag, none) => .ok ⟨reading.given, some (flag, some text)⟩
  | _ => .error (.misuse (stray scope text))

/-- The misuse of an argument behind two dashes, where a subcommand counts for nothing. -/
def behindSeparator (scope : Scope) (text : String) : Misuse :=
  if scope = .root ∧ (text = "help" ∨ (Scope.ofName? text).isSome) then .unexpectedArgument text
  else stray scope text

def helpOn : List String → Halt
  | [] => .help .root
  | text :: rest =>
      match Scope.ofName? text, rest with
      | some scope, [] => .help scope
      | some _, next :: _ => .misuse (.unknownSubcommand next)
      | none, _ => if text = "help" then .help .root else .misuse (.unknownSubcommand text)

/-- Reads the arguments of one place. At the root, reading ends in front of the arguments of a subcommand. -/
def read (scope : Scope) : Reading → List String → Except Halt (Reading × Option (Scope × List String))
  | reading, [] => .ok (reading, none)
  | reading, text :: rest =>
      if scope = .root ∧ !reading.awaitsValue ∧ text = "help" then .error (helpOn rest)
      else
        match if scope = .root ∧ !reading.awaitsValue then Scope.ofName? text else none with
        | some inner => .ok (reading, some (inner, rest))
        | none =>
            match Argument.ofText text with
            | .separator =>
                match rest with
                | [] => .ok (reading, none)
                | next :: _ => .error (.misuse (behindSeparator scope next))
            | .long name value =>
                match reading.takeLong scope name value with
                | .ok reading => read scope reading rest
                | .error halt => .error halt
            | .short letter value =>
                match reading.takeShort scope letter value with
                | .ok reading => read scope reading rest
                | .error halt => .error halt
            | .plain text =>
                match reading.takePlain scope text with
                | .ok reading => read scope reading rest
                | .error halt => .error halt

end Reading

/-- What `generate` is asked for. What it leaves open is taken from the configuration. -/
structure GenerateRequest where
  source : FilePath
  generatedDirectory : Option FilePath
  language : Option Language
  marker : Option String
  deriving DecidableEq, Repr

inductive Request where
  | generate (request : GenerateRequest)
  | check
  deriving DecidableEq, Repr

structure Invocation where
  logLevel : Option Log.Level
  logFile : Option FilePath
  configuration : Option FilePath
  request : Request
  deriving DecidableEq, Repr

namespace Invocation

/-- The request that the flags behind a subcommand make. -/
def requestOf (scope : Scope) (given : Given) : Except Misuse Request :=
  match scope, given.source with
  | .root, _ => .error .subcommandMissing
  | .check, _ => .ok .check
  | .generate, none => .error (.missingFlag .source)
  | .generate, some source =>
      .ok (.generate ⟨source, given.generatedDirectory, given.language, given.marker⟩)

def withoutSubcommand (given : Given) : Misuse :=
  if given = .nothing then .nothingAsked else .subcommandMissing

/-- Reads arguments. What stands behind a subcommand is settled before what stands in front of it, and a setting that
both make is made by the former. -/
def ofArguments (arguments : List String) : Except Halt Invocation := do
  let (outer, next) ← Reading.start.read .root arguments
  match next with
  | none =>
      let given ← outer.settle
      .error (.misuse (withoutSubcommand given))
  | some (scope, rest) =>
      let (inner, _) ← Reading.start.read scope rest
      let given ← inner.settle
      let request ← Reading.orHalt (requestOf scope given)
      let before ← outer.settle
      return ⟨given.logLevel.or before.logLevel, given.logFile.or before.logFile, given.configuration, request⟩

end Invocation

end Companion.Command
