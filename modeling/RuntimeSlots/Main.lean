import RuntimeSlots.Tool

/-!
# The program

The program around the tool: it fetches the files that the command line names and the user's log
filter, and writes out what the tool answers.  This build has no table of its own.
-/

open RuntimeSlots

/-- The system's number for an error, from a code that may hold its negative. -/
def errorNumber (code : UInt32) : Nat :=
  if code.toNat < 0x80000000 then code.toNat else UInt32.size - code.toNat

/-- What a failure to read a file means for its opening. -/
def openingOfError : IO.Error → Opening
  | .noFileOrDirectory .. => .unopened .missing
  | .inappropriateType _ code _ =>
    if errorNumber code = 20 then .unopened .notDirectory else .unmapped .notMappable
  | .invalidArgument _ code details =>
    if errorNumber code = 36 then .unopened .nameTooLong else .unopened (.system details)
  | .permissionDenied .. => .unopened (.system "Permission denied (os error 13)")
  | error => .unopened (.system (toString error))

/-- Opens a path of the file system. -/
def openPath (path : String) : IO Opening := do
  if path.toList.contains '\x00' then
    return .unopened .zeroByte
  try
    return .contents (← IO.FS.readBinFile path)
  catch error =>
    return openingOfError error

/-- The paths that a command line asks to open. -/
def inputsOf (words : List String) : List String :=
  match CommandLine.read false words with
  | .ok { command := .inspect inputs _, .. } => inputs
  | _ => []

/-- Runs the tool on the words of the command line. -/
def main (arguments : List String) : IO UInt32 := do
  let words := (← IO.appPath).toString :: arguments
  let openings ← (inputsOf words).mapM fun path => return (path, ← openPath path)
  let outcome := Tool.run {
    opening := fun path => (openings.lookup path).getD (.unopened .missing)
    logFilter := ← IO.getEnv "RUST_LOG"
    linkage := none } words
  (← IO.getStdout).putStr outcome.output
  (← IO.getStderr).putStr outcome.errors
  return UInt32.ofNat outcome.code
