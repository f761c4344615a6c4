import PasswordPolicy.Console.Configuration
import PasswordPolicy.Console.ControlSequence
import PasswordPolicy.Console.Prompt

/-!
# Reports

What a command has to tell: what it prints, what it logs, and how it ends. A failure has an exit
code and a message. Four faults of the input are not reported as failures but end the program as
crashes: a specification with a number of too many digits, a configuration file that holds something
without a value, a configuration whose names are not texts, and a configured integer that has too
many digits for a message or for the text of the policy.
-/

namespace PasswordPolicy.Console

/-- A failure that a command reports. -/
inductive Failure
  /-- The input ended before the password was given. -/
  | aborted
  | malformedRules (offset : Nat) (message : String)
  /-- The file at the path cannot be decoded; the YAML reader says why. -/
  | undecodableConfiguration (path complaint : String)
  | invalidConfiguration (message : String)
  | violated (kinds : List Kind)
  /-- The password has expired: its age and the limit, in words. -/
  | expired (age limit : String)
deriving DecidableEq, Repr

namespace Failure

/-- The exit code of a failure. -/
def code : Failure → Nat
  | aborted | undecodableConfiguration _ _ | invalidConfiguration _ => 1
  | violated _ | expired _ _ => 64
  | malformedRules _ _ => 65

def message : Failure → String
  | aborted => "Aborted!"
  | malformedRules offset message =>
    "Error: Invalid rule specification at offset " ++ toString offset ++ ": " ++ message
  | undecodableConfiguration path complaint =>
    "Error: Decoding failed for configuration file " ++ Text.quoted path ++ ".\n\n" ++ complaint
  | invalidConfiguration message => "Error: Invalid configuration input.\n\n" ++ message
  | violated kinds =>
    "Error: Password violates " ++ toString kinds.length ++ " rule(s): " ++
      ", ".intercalate (kinds.map Kind.token)
  | expired age limit =>
    "Error: Password expired: last changed " ++ age ++ " ago, the limit is " ++ limit

/-- The message as it is printed. -/
def line (f : Failure) : String := String.ofList (withoutControls f.message.toList) ++ "\n"

end Failure

/-- A fault that ends the program without a report. -/
inductive Crash
  | specification (e : Specification.Error)
  | configuration (defect : Yaml.Defect)
  | keysNotText
  /-- An integer has too many digits to be written. -/
  | unwritable
deriving DecidableEq, Repr

def Crash.message : Crash → String
  | specification e => e.message
  | configuration defect => defect.message
  | keysNotText => "keywords must be strings"
  | unwritable => Text.unwritableMessage

/-- Why a command does not succeed. -/
inductive Trouble
  | failure (f : Failure)
  | crash (c : Crash)
deriving DecidableEq, Repr

namespace Trouble

/-- The trouble with a specification given as an argument. -/
def ofSpecification : Specification.Error → Trouble
  | .numberTooLong count => .crash (.specification (.numberTooLong count))
  | e => .failure (.malformedRules e.offset e.message)

def ofConfiguration : ConfigurationFault → Trouble
  | .undecodable path complaint => .failure (.undecodableConfiguration path complaint)
  | .defective defect => .crash (.configuration defect)
  | .notMapping typeName => .failure <|
    .invalidConfiguration ("Expected a mapping at the top level, got " ++ typeName)
  | .keysNotText => .crash .keysNotText
  | .invalid errors =>
    if errors.all (·.input.isWritable) then
      .failure (.invalidConfiguration (FieldError.displayAll errors))
    else .crash .unwritable

end Trouble

/-- What a command prints and logs, and whether it succeeds. -/
structure Report where
  printed : String
  log : List LogEntry
  ending : Except Trouble Unit

/-- The outcome of a run as it is seen from outside. -/
inductive Outcome
  /-- The arguments could not be used. -/
  | misused
  | finished (exit : Nat) (output errors : String)
  | crashed (crash : Crash)
deriving DecidableEq, Repr

namespace Report

/-- A report with more printed before it. -/
def after (text : String) (r : Report) : Report := { r with printed := text ++ r.printed }

/-- A report with more logged before it. -/
def withLog (entries : List LogEntry) (r : Report) : Report := { r with log := entries ++ r.log }

/-- The report of a command that prints something and succeeds. -/
def success (text : String) : Report := ⟨text, [], .ok ()⟩

/-- The report of a command that prints something and fails. -/
def failed (text : String) (f : Failure) : Report := ⟨text, [], .error (.failure f)⟩

/-- The report of a command that ends in a crash. -/
def crashed (c : Crash) : Report := ⟨"", [], .error (.crash c)⟩

/-- The outcome that a report amounts to; the log is shown if `debug`. -/
def outcome (debug : Bool) (r : Report) : Outcome :=
  let log := if debug then String.join (r.log.map LogEntry.line) else ""
  match r.ending with
  | .ok () => .finished 0 r.printed log
  | .error (.failure f) => .finished f.code r.printed (log ++ f.line)
  | .error (.crash c) => .crashed c

end Report

end PasswordPolicy.Console
