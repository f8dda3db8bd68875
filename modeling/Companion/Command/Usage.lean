import Companion.FilePath
import Companion.Language
import Companion.Log.Level

set_option autoImplicit false

namespace Companion.Command

inductive Flag where
  | logLevel
  | logFile
  | source
  | generatedDirectory
  | language
  | marker
  | configuration
  | version
  | help
  deriving DecidableEq, Repr

namespace Flag

def long : Flag → String
  | logLevel => "log-level"
  | logFile => "log-file"
  | source => "source"
  | generatedDirectory => "generated-dir"
  | language => "lang"
  | marker => "annotation"
  | configuration => "config"
  | version => "version"
  | help => "help"

def short? : Flag → Option Char
  | source => some 's'
  | generatedDirectory => some 'g'
  | language => some 'l'
  | marker => some 'a'
  | configuration => some 'c'
  | version => some 'V'
  | help => some 'h'
  | logLevel | logFile => none

def placeholder? : Flag → Option String
  | logLevel => some "LOG_LEVEL"
  | logFile => some "LOG_FILE"
  | source => some "SOURCE"
  | generatedDirectory => some "GENERATED_DIR"
  | language => some "LANG"
  | marker => some "ANNOTATION"
  | configuration => some "CONFIG"
  | version | help => none

def render (flag : Flag) : String :=
  match flag.placeholder? with
  | some placeholder => "--" ++ flag.long ++ " <" ++ placeholder ++ ">"
  | none => "--" ++ flag.long

def purpose : Flag → String
  | logLevel => "Log level (trace, debug, info, warn, error, off); RUST_LOG takes precedence"
  | logFile => "Write logs to this file instead of stderr"
  | source => "Root of the Rust source tree to scan (e.g. src)"
  | generatedDirectory => "Root directory for generated sources"
  | language => "Target language (rust, kotlin)"
  | marker => "Marker attribute name (default: extract_field)"
  | configuration => "Path to extractfield.toml (default: ./extractfield.toml if present)"
  | version => "Print version"
  | help => "Print help"

end Flag

/-- Where flags stand: in front of a subcommand, or behind one. -/
inductive Scope where
  | root
  | generate
  | check
  deriving DecidableEq, Repr

namespace Scope

def ofName? : String → Option Scope
  | "generate" => some generate
  | "check" => some check
  | _ => none

def path : Scope → String
  | root => "extractfield"
  | generate => "extractfield generate"
  | check => "extractfield check"

def purpose : Scope → String
  | root => "Generate nullable companion types for annotated structs"
  | generate => "Scan a source tree and write companion types"
  | check => "Validate an extractfield.toml configuration"

def flags : Scope → List Flag
  | root => [.logLevel, .logFile, .help, .version]
  | generate => [.source, .generatedDirectory, .language, .marker, .configuration, .logLevel, .logFile, .help]
  | check => [.configuration, .logLevel, .logFile, .help]

def ofLong? (scope : Scope) (name : String) : Option Flag :=
  scope.flags.find? fun flag => flag.long == name

def ofShort? (scope : Scope) (letter : Char) : Option Flag :=
  scope.flags.find? fun flag => flag.short? == some letter

def flagHelp (flag : Flag) : String :=
  let short := match flag.short? with
    | some letter => "-" ++ letter.toString ++ ", "
    | none => "    "
  "  " ++ short ++ flag.render ++ "  " ++ flag.purpose ++ "\n"

def usage : Scope → String
  | root => "Usage: extractfield [OPTIONS] <COMMAND>"
  | generate => "Usage: extractfield generate [OPTIONS] --source <SOURCE>"
  | check => "Usage: extractfield check [OPTIONS]"

def help (scope : Scope) : String :=
  let commands := match scope with
    | root =>
        "Commands:\n  generate  " ++ generate.purpose ++ "\n  check     " ++ check.purpose
          ++ "\n  help      Print this message or the help of the given subcommand(s)\n\n"
    | generate | check => ""
  scope.purpose ++ "\n\n" ++ scope.usage ++ "\n\n" ++ commands ++ "Options:\n"
    ++ String.join (scope.flags.map flagHelp)

end Scope

inductive Misuse where
  /-- There are no arguments. -/
  | nothingAsked
  | subcommandMissing
  | unknownSubcommand (text : String)
  | unexpectedArgument (text : String)
  | missingFlag (flag : Flag)
  | repeatedFlag (flag : Flag)
  | valueMissing (flag : Flag)
  | valueNotWanted (flag : Flag) (text : String)
  | badValue (flag : Flag) (text reason : String)
  deriving DecidableEq, Repr

def Misuse.message : Misuse → String
  | nothingAsked => Scope.root.help
  | subcommandMissing => "error: 'extractfield' requires a subcommand but one was not provided\n"
  | unknownSubcommand text => "error: unrecognized subcommand '" ++ text ++ "'\n"
  | unexpectedArgument text => "error: unexpected argument '" ++ text ++ "' found\n"
  | missingFlag flag => "error: the following required arguments were not provided:\n  " ++ flag.render ++ "\n"
  | repeatedFlag flag => "error: the argument '" ++ flag.render ++ "' cannot be used multiple times\n"
  | valueMissing flag => "error: a value is required for '" ++ flag.render ++ "' but none was supplied\n"
  | valueNotWanted flag text =>
      "error: unexpected value '" ++ text ++ "' for '" ++ flag.render ++ "' found; no more were expected\n"
  | badValue flag text reason =>
      "error: invalid value '" ++ text ++ "' for '" ++ flag.render ++ "': " ++ reason ++ "\n"

end Companion.Command
