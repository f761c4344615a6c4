import PasswordPolicy.Age
import PasswordPolicy.Console.Report
import PasswordPolicy.Console.Wrap
import PasswordPolicy.Duration
import PasswordPolicy.Evaluation

/-!
# Commands

There are three commands: to check a password, to check the age of a password, and to write a
specification in its canonical form. The rules of the first two come from the command line or else
from the configuration, which is looked at only then.
-/

namespace PasswordPolicy.Console

/-- Where rules come from if the command line gives none. -/
structure Surroundings where
  file : Option ConfigurationFile
  environment : Environment
  /-- The current time by the local clock, in microseconds since the start of year 1. -/
  clock : Int

/-- A password to be checked. -/
structure CheckRequest where
  rules : Option String
  user : Option String
  /-- Earlier passwords, newest first. -/
  previous : List String
  password : String
deriving DecidableEq, Repr

/-- An age to be checked. -/
structure AgeRequest where
  rules : Option String
  lastChanged : CivilTime
deriving DecidableEq, Repr

/-- A specification to be written in canonical form or, if `asFields`, as named fields. -/
structure FormatRequest where
  specification : String
  asFields : Bool
deriving DecidableEq, Repr

/-! ### Rules -/

/-- The policy that a specification on the command line describes. -/
def givenRules (specification : String) : Logged (Except Trouble Policy) :=
  match Policy.ofSpecification specification with
  | .ok p => ⟨LogEntry.ofSpecification specification, .ok p⟩
  | .error e => ⟨[], .error (.ofSpecification e)⟩

/-- The policy that the configuration describes. -/
def configuredRules (s : Surroundings) : Logged (Except Trouble Policy) :=
  let loaded := Configuration.load s.file s.environment
  let log := .configurationUsed :: loaded.log
  match loaded.value with
  | .error fault => ⟨log, .error (.ofConfiguration fault)⟩
  | .ok settings =>
    match settings.toPolicy with
    | .ok p => ⟨log ++ Configuration.policyLog settings, .ok p⟩
    | .error e => ⟨log, .error (.crash (.specification e))⟩

/-- The policy by the command line or, if it gives none, by the configuration. -/
def resolveRules (s : Surroundings) : Option String → Logged (Except Trouble Policy)
  | some specification => givenRules specification
  | none => configuredRules s

/-- The report of a command that goes on with a policy if there is one. -/
def withRules (rules : Logged (Except Trouble Policy)) (command : Policy → Report) : Report :=
  match rules.value with
  | .ok p => (command p).withLog rules.log
  | .error trouble => ⟨"", rules.log, .error trouble⟩

/-! ### Checking a password -/

/-- The width of printed lines, where nothing in the surroundings sets another one: the output is no
terminal, and neither `COLUMNS` nor `FORCE_COLOR` is set. Then lines are broken at the default width
and printed without colours. -/
def lineWidth : Nat := 80

/-- A text printed in lines that fit the width. -/
def printWrapped (text : List Char) : String :=
  String.join ((wrap lineWidth text).map fun line => String.ofList line ++ "\n")

namespace CheckRequest

/-- The attempt to use the password. Without earlier passwords there is no history. -/
def attempt (r : CheckRequest) : Attempt :=
  ⟨r.password, r.user, if r.previous.isEmpty then none else some (History.ofList r.previous)⟩

end CheckRequest

/-- What is printed about a violated constraint. -/
def violationText (p : Policy) (k : Kind) : List Char :=
  "=> violates ".toList ++ k.clause (some (p.get k))

/-- The report on a password with these violations of a policy. -/
def violationReport (p : Policy) (violations : List Kind) : Report :=
  if violations.isEmpty then .success (printWrapped "=> password accepted".toList)
  else .failed (String.join (violations.map fun k => printWrapped (violationText p k)))
    (.violated violations)

/-- The report on a password. The text of the policy is written before the password is judged,
whether or not the log is shown. -/
def checkReport (r : CheckRequest) (p : Policy) : Report :=
  if p.isWritable then
    let violations := p.violations r.attempt
    (violationReport p violations).withLog
      (.checkStarted p.text :: LogEntry.ofViolations violations)
  else .crashed .unwritable

/-! ### Checking an age -/

/-- The report on the age of a password. -/
def ageReport (lastChanged : CivilTime) (clock : Int) (p : Policy) : Report :=
  let span := clock - lastChanged.microseconds
  let age := Duration.words span
  let limit := Duration.words (p.ageLimitDays * microsecondsPerDay)
  let report : Report :=
    if !p.expirePasswords then
      .success ("password age is not limited (last changed " ++ age ++ " ago)\n")
    else if p.isOverdue span then .failed "" (.expired age limit)
    else .success ("password is valid (last changed " ++ age ++ " ago, limit is " ++ limit ++ ")\n")
  report.withLog [.lastChanged lastChanged]

/-! ### Formatting -/

/-- The value of a field of the policy in JSON. -/
def fieldText (p : Policy) (k : Kind) : String :=
  if k.isSwitch then if p.enabled k then "true" else "false"
  else String.ofList (Text.decimal (p.get k))

/-- The named fields of the policy as a JSON text, one a line. -/
def fieldsText (p : Policy) : String :=
  let line (k : Kind) : String := "  \"" ++ k.label ++ "\": " ++ fieldText p k
  "\x7b\n" ++ ",\n".intercalate (Kind.all.map line) ++ "\n\x7d"

/-- The report on a specification. -/
def formatReport (asFields : Bool) (p : Policy) : Report :=
  .success ((if asFields then fieldsText p else p.text) ++ "\n")

/-! ### Commands -/

/-- A command with its input. -/
inductive Command
  /-- Prints how the program is used. -/
  | help (usage : String)
  /-- Reports that the input ended before the password was given. -/
  | abort
  | check (r : CheckRequest)
  | expired (r : AgeRequest)
  | format (r : FormatRequest)
deriving DecidableEq, Repr

/-- Carries out a command. -/
def Command.report (s : Surroundings) : Command → Report
  | help usage => .success (usage ++ "\n")
  | abort => .failed "" .aborted
  | check r => withRules (resolveRules s r.rules) (checkReport r)
  | expired r => withRules (resolveRules s r.rules) (ageReport r.lastChanged s.clock)
  | format r => withRules (givenRules r.specification) (formatReport r.asFields)

end PasswordPolicy.Console
