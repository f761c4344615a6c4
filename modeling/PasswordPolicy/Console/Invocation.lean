import PasswordPolicy.Console.Arguments
import PasswordPolicy.Console.Command
import PasswordPolicy.Console.Date

/-!
# Invocations

Reading the command line of the program and running it. An option that is not given on the command
line can be given by an environment variable; an empty variable counts as not set. The general
options come first, then the name of a command and its own options and operands.
-/

namespace PasswordPolicy.Console

/-- What the program is started with. -/
structure Invocation where
  arguments : List String
  input : String
  environment : Environment
  /-- The text of the file at a path, if there is one. -/
  file? : String → Option String
  /-- What the YAML reader says about a text that it cannot decode. -/
  complaint : String → String
  /-- The current time by the local clock, in microseconds since the start of year 1. -/
  clock : Int

/-! ### Options and variables -/

/-- The value of a variable that is set to something. -/
def variableValue? (env : Environment) (name : String) : Option String :=
  (env.get? name).filter (· ≠ "")

/-- The name of the variable for an option; `scope` is the name of its command, if it has one. -/
def variableName (scope : List String) (option : String) : String :=
  "_".intercalate (["PASSWORD", "RULES"] ++ scope ++ [option])

/-- The truth value that a word stands for, whatever its case and the blanks around it. -/
def readTruth? (word : String) : Option Bool :=
  let word := String.ofList (Unicode.lowerCase (Unicode.trimBlanks word.toList))
  if ["1", "true", "t", "yes", "y", "on"].contains word then some true
  else if ["0", "false", "f", "no", "n", "off", ""].contains word then some false
  else none

/-- The value of an option by the arguments or else by its variable. -/
def optionValue? (a : Arguments) (env : Environment) (key name : String) : Option String :=
  (a.last? key).or (variableValue? env name)

/-- Which one of two opposite flags was given last, if any: is it `on`? -/
def lastFlag? (a : Arguments) (on off : String) : Option Bool :=
  (a.options.findRev? fun option => option.1 == on || option.1 == off).map (·.1 == on)

/-- Is a flag on by the arguments or else by its variable? -/
def flagValue (a : Arguments) (env : Environment) (on off name : String) :
    Except UsageError Bool :=
  match lastFlag? a on off, variableValue? env name with
  | some value, _ => .ok value
  | none, none => .ok false
  | none, some word =>
    match readTruth? word with
    | some value => .ok value
    | none => .error .misused

/-- Was this option given? -/
def isRequested (a : Arguments) (key : String) : Bool := (a.last? key).isSome

/-! ### Choices -/

/-- The option that asks how the program is used. -/
def helpChoice : Choice := ⟨"help", [], ["--help"], false⟩

/-- The option that gives rules. -/
def rulesChoice : Choice := ⟨"rules", ['r'], ["--rules"], true⟩

/-- The general options. -/
def generalChoices : List Choice :=
  [⟨"debug", ['D'], ["--debug"], false⟩, ⟨"no-debug", [], ["--no-debug"], false⟩,
   ⟨"config", ['c'], ["--config"], true⟩, helpChoice]

/-- The options of the command `check`. -/
def checkChoices : List Choice :=
  [rulesChoice, ⟨"user", ['u'], ["--user"], true⟩, ⟨"previous", ['p'], ["--previous"], true⟩,
   ⟨"password", [], ["--password"], true⟩, helpChoice]

/-- The options of the command `expired`. -/
def expiredChoices : List Choice :=
  [rulesChoice, ⟨"last-changed", ['l'], ["--last-changed"], true⟩, helpChoice]

/-- The options of the command `format`. -/
def formatChoices : List Choice :=
  [⟨"fields", [], ["--fields"], false⟩, ⟨"no-fields", [], ["--no-fields"], false⟩, helpChoice]

/-! ### Commands -/

/-- A command that has been read, with what asking for its input printed. -/
structure ReadCommand where
  printed : String
  command : Command
deriving DecidableEq, Repr

/-- Reads the arguments of `check`. The password is asked for before operands are refused. -/
def readCheck (args : List String) (env : Environment) (input : String) :
    Except UsageError ReadCommand := do
  let a ← split checkChoices true args
  if isRequested a "help" then return ⟨"", .help "Usage: password-rules check [OPTIONS]"⟩
  let value? (key name : String) : Option String :=
    optionValue? a env key (variableName ["CHECK"] name)
  let previous :=
    if isRequested a "previous" then a.all "previous"
    else
      let listed := (variableValue? env (variableName ["CHECK"] "PREVIOUS")).getD ""
      (Unicode.words listed.toList).map String.ofList
  let asked := match value? "password" "PASSWORD" with
    | some password => Prompted.known password
    | none => Prompted.ask (linesOf input)
  match asked.answer with
  | none => return ⟨asked.printed, .abort⟩
  | some password =>
    if a.operands.isEmpty then
      let request := ⟨value? "rules" "SPEC", value? "user" "USER", previous, password⟩
      return ⟨asked.printed, .check request⟩
    else throw .misused

/-- Reads the arguments of `expired`. -/
def readExpired (args : List String) (env : Environment) : Except UsageError ReadCommand := do
  let a ← split expiredChoices true args
  if isRequested a "help" then return ⟨"", .help "Usage: password-rules expired [OPTIONS]"⟩
  let value? (key name : String) : Option String :=
    optionValue? a env key (variableName ["EXPIRED"] name)
  match (value? "last-changed" "LAST_CHANGED").bind readCivilTime?, a.operands with
  | some lastChanged, [] => return ⟨"", .expired ⟨value? "rules" "SPEC", lastChanged⟩⟩
  | _, _ => throw .misused

/-- Reads the arguments of `format`. -/
def readFormat (args : List String) (env : Environment) : Except UsageError ReadCommand := do
  let a ← split formatChoices true args
  if isRequested a "help" then return ⟨"", .help "Usage: password-rules format [OPTIONS] SPEC"⟩
  let asFields ← flagValue a env "fields" "no-fields" (variableName ["FORMAT"] "FIELDS")
  match a.operands with
  | [specification] => return ⟨"", .format ⟨specification, asFields⟩⟩
  | _ => throw .misused

/-- Reads the name and the arguments of a command. -/
def readCommand (inv : Invocation) : List String → Except UsageError ReadCommand
  | "check" :: args => readCheck args inv.environment inv.input
  | "expired" :: args => readExpired args inv.environment
  | "format" :: args => readFormat args inv.environment
  | _ => .error .misused

/-! ### Running -/

/-- The path of the configuration file, if one is named. -/
def namedFile? (env : Environment) (a : Arguments) : Option String :=
  optionValue? a env "config" (variableName [] "CONFIG")

/-- The configuration file, which has to exist if one is named. -/
def readFile (inv : Invocation) (a : Arguments) :
    Except UsageError (Option ConfigurationFile) :=
  match namedFile? inv.environment a with
  | none => .ok none
  | some path =>
    match inv.file? path with
    | some text => .ok (some ⟨path, text, inv.complaint text⟩)
    | none => .error .misused

/-- What is to be done: a command, with or without the log shown, and the configuration file. -/
structure Task where
  debug : Bool
  file : Option ConfigurationFile
  read : ReadCommand
deriving DecidableEq, Repr

namespace Invocation

/-- The task that the general arguments of the invocation give. -/
def taskOf (inv : Invocation) (a : Arguments) : Except UsageError Task := do
  if isRequested a "help" then
    return ⟨false, none, "", .help "Usage: password-rules [OPTIONS] COMMAND [ARGS]..."⟩
  let debug ← flagValue a inv.environment "debug" "no-debug" (variableName [] "DEBUG")
  let file ← readFile inv a
  return ⟨debug, file, ← readCommand inv a.operands⟩

/-- The task that the invocation gives. -/
def task (inv : Invocation) : Except UsageError Task :=
  (split generalChoices false inv.arguments).bind inv.taskOf

def report (inv : Invocation) (t : Task) : Report :=
  (t.read.command.report ⟨t.file, inv.environment, inv.clock⟩).after t.read.printed

/-- Runs the program. -/
def run (inv : Invocation) : Outcome :=
  match inv.task with
  | .ok t => (inv.report t).outcome t.debug
  | .error .misused => .misused

/-- The path of the configuration file, if the arguments can be split and one is named. -/
def filePath? (inv : Invocation) : Option String :=
  match split generalChoices false inv.arguments with
  | .ok a => namedFile? inv.environment a
  | .error .misused => none

/-- Does the invocation wait for its input? -/
def awaitsInput (inv : Invocation) : Bool :=
  match task { inv with input := "" } with
  | .ok t => t.read.command == .abort
  | .error .misused => false

end Invocation

end PasswordPolicy.Console
