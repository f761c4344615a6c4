import PasswordPolicy.Console.Invocation
import Std.Time.Zoned

/-!
# The program

The program `password-rules`: it checks passwords and their age, and formats specifications. Here
the process is looked at and the outcome is printed; all else is decided by `Invocation.run`.
-/

namespace PasswordPolicy

open Console

/-- The variable that a line such as `NAME=value` sets. -/
def readVariable (line : List Char) : String × String :=
  (String.ofList (line.takeWhile (· != '=')), String.ofList ((line.dropWhile (· != '=')).drop 1))

/-- The variables of the process. -/
def readEnvironment : IO Environment := do
  try
    let text ← IO.FS.readFile "/proc/self/environ"
    return (text.splitOn "\x00").map fun line => readVariable line.toList
  catch _ => return []

/-- The text of the file at the path, if it can be read. -/
def readText? (path : String) : IO (Option String) := do
  try return some (← IO.FS.readFile path) catch _ => return none

/-- The current time by the local clock. -/
def readClock : IO Int := do
  let now ← Std.Time.PlainDateTime.now
  let time : CivilTime := {
    year := now.date.year.toInt.toNat
    month := now.date.month.val.toNat
    day := now.date.day.val.toNat
    hour := now.time.hour.val.toNat
    minute := now.time.minute.val.toNat
    second := now.time.second.val.toNat
    microsecond := now.time.nanosecond.val.toNat / 1000 }
  return time.microseconds

/-- The invocation that the process is, with its input if that is needed. -/
def readInvocation (arguments : List String) : IO Invocation := do
  let environment ← readEnvironment
  let invocation : Invocation := {
    arguments := arguments, input := "", environment := environment,
    file? := fun _ => none, complaint := fun _ => "This is not a document in YAML.",
    clock := ← readClock }
  let invocation ← match invocation.filePath? with
    | none => pure invocation
    | some path =>
      let text ← readText? path
      pure { invocation with file? := fun wanted => if wanted = path then text else none }
  if invocation.awaitsInput then
    return { invocation with input := ← (← IO.getStdin).readToEnd }
  else return invocation

/-- Prints an outcome and gives the exit code. -/
def present : Outcome → IO UInt32
  | .misused => do
    IO.eprintln "Usage: password-rules [OPTIONS] COMMAND [ARGS]..."
    return 2
  | .crashed crash => do
    IO.eprintln crash.message
    return 1
  | .finished exit output errors => do
    IO.print output
    IO.eprint errors
    return exit.toUInt32

end PasswordPolicy

/-- Runs the program on the arguments. -/
def main (arguments : List String) : IO UInt32 := do
  PasswordPolicy.present (← PasswordPolicy.readInvocation arguments).run
