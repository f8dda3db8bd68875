import Companion.Text.Blank

set_option autoImplicit false

namespace Companion.Log

/-- A threshold for events, or the level of one event. -/
inductive Level where
  | trace | debug | info | warn | error | off
  deriving DecidableEq, Repr

namespace Level

def all : List Level := [trace, debug, info, warn, error, off]

/-- The place of a level in the order from verbose to silent. -/
def rank : Level → Nat
  | trace => 0
  | debug => 1
  | info => 2
  | warn => 3
  | error => 4
  | off => 5

def isQuieterThan (level other : Level) : Bool :=
  other.rank < level.rank

def admits (threshold event : Level) : Bool :=
  threshold.rank ≤ event.rank

def display : Level → String
  | trace => "TRACE"
  | debug => "DEBUG"
  | info => "INFO"
  | warn => "WARN"
  | error => "ERROR"
  | off => "OFF"

def name : Level → String
  | trace => "trace"
  | debug => "debug"
  | info => "info"
  | warn => "warn"
  | error => "error"
  | off => "off"

/-- Reads a name in any case, with white space around it. -/
def ofText? (text : String) : Option Level :=
  match Text.lowerAscii (Text.trim text) with
  | "trace" => some trace
  | "debug" => some debug
  | "info" => some info
  | "warn" | "warning" => some warn
  | "error" => some error
  | "off" | "none" => some off
  | _ => none

def unknownMessage (text : String) : String :=
  "unknown log level '" ++ text ++ "' (expected trace, debug, info, warn, error or off)"

end Level

end Companion.Log
