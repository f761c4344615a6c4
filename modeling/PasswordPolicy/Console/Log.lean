import PasswordPolicy.Calendar
import PasswordPolicy.Policy
import PasswordPolicy.Unicode.Blank

/-!
# Log entries

What a run of the program writes to its log. The log is shown only on request.
-/

namespace PasswordPolicy.Console

inductive LogEntry
  | specificationRead (specification : String)
  | configurationUsed
  /-- A password is about to be checked against the policy with this canonical text. -/
  | checkStarted (canonical : String)
  | violated (kinds : List Kind)
  | lastChanged (time : CivilTime)
deriving DecidableEq, Repr

namespace LogEntry

/-- The part of the program that an entry comes from. -/
def topic : LogEntry → String
  | specificationRead _ => "password_rules.parser"
  | configurationUsed => "password_rules._cli.options"
  | checkStarted _ => "password_rules._cli.commands.check"
  | violated _ => "password_rules.evaluator"
  | lastChanged _ => "password_rules._cli.commands.policy"

/-- The tokens of kinds in alphabetical order. -/
def sortedTokens (kinds : List Kind) : List String :=
  (kinds.map Kind.token).mergeSort fun s t => decide (¬ t < s)

/-- The wording of an entry. -/
def message : LogEntry → String
  | specificationRead specification =>
    "parsed rule specification " ++ Text.quoted specification
  | configurationUsed => "no rules given on the command line, using configuration"
  | checkStarted canonical => "checking password against " ++ Text.quoted canonical
  | violated kinds => "password violates " ++ ", ".intercalate (sortedTokens kinds)
  | lastChanged time => "password last changed at " ++ time.iso

/-- The line that an entry takes in the log. -/
def line (entry : LogEntry) : String := "DEBUG:" ++ entry.topic ++ ":" ++ entry.message ++ "\n"

/-- The entries about a specification that has been read; there is none about a blank one. -/
def ofSpecification (specification : String) : List LogEntry :=
  if Unicode.allBlank specification.toList then [] else [.specificationRead specification]

/-- The entries about the violations that have been found; there is none if there are none. -/
def ofViolations (kinds : List Kind) : List LogEntry :=
  if kinds.isEmpty then [] else [.violated kinds]

end LogEntry

end PasswordPolicy.Console
