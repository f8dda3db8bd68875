import Companion.Disk
import Std.Time

/-!
The program: reads the part of the disk that a call can touch, runs the call, writes back what has changed, and prints.
-/

set_option autoImplicit false

open Companion

def logStamp : IO String := do
  let moment := Std.Time.DateTime.ofTimestamp (← Std.Time.Timestamp.now) Std.Time.TimeZone.ZoneRules.UTC
  return moment.format "uuuu-MM-dd'T'HH:mm:ss.SSSSSS'Z' "

def main (arguments : List String) : IO UInt32 := do
  let files ← match Command.Invocation.ofArguments arguments with
    | .ok invocation => Disk.read invocation
    | .error _ => pure FileSystem.empty
  let start := { Workspace.ofFiles files with stamp := ← logStamp }
  let (work, status) := Command.run arguments (← IO.getEnv "RUST_LOG") start
  Disk.write [] (some files.root) work.files.root
  (← IO.getStdout).putStr work.output
  (← IO.getStderr).putStr work.errors
  return status.toUInt32
