import PasswordPolicy.Console.Log
import PasswordPolicy.Settings.Basic
import PasswordPolicy.Yaml.Document

/-!
# Configuration

The settings of the program come from a YAML file, if one is named, and from environment variables.
A file whose value counts as empty gives no settings. What the YAML reader says about a text that it
cannot decode is its own affair; here it comes with the file.

A file can also give parameters to the reader of the settings, by names with an underscore in front.
These change how settings are read, or break the reading off; here they count as unknown settings
(see `Settings.setsParameter`).
-/

namespace PasswordPolicy.Console

/-- A configuration file. -/
structure ConfigurationFile where
  path : String
  text : String
  /-- What the YAML reader says about the text, should it not be able to decode it. -/
  complaint : String
deriving DecidableEq, Repr

/-- Why a configuration cannot be used. -/
inductive ConfigurationFault
  /-- The text of the file at this path is broken; the YAML reader says why. -/
  | undecodable (path complaint : String)
  /-- The file holds something that has no value. -/
  | defective (defect : Yaml.Defect)
  /-- The file holds a value of the named type instead of a record. -/
  | notMapping (typeName : String)
  /-- The names of settings are not all texts. -/
  | keysNotText
  | invalid (errors : List FieldError)

/-- A value with the log entries written on the way to it. -/
structure Logged (α : Type) where
  log : List LogEntry
  value : α

namespace Configuration

def isTextKey : Scalar → Bool
  | .text _ => true
  | _ => false

/-- The entries of the file; none without a file. -/
def entries : Option ConfigurationFile → Except ConfigurationFault Entries
  | none => .ok []
  | some file =>
    match Yaml.read file.text with
    | .error .broken => .error (.undecodable file.path file.complaint)
    | .error (.defective defect) => .error (.defective defect)
    | .ok value =>
      if !value.truthy then .ok []
      else match value with
        | .record entries =>
          if entries.all fun entry => isTextKey entry.1 then .ok entries else .error .keysNotText
        | value => .error (.notMapping value.typeName)

/-- The log entries about the specification in merged entries. It is read unless both settings are
given, and logged if it can be read, whatever else is wrong with the entries. -/
def readLog (merged : Entries) : List LogEntry :=
  if Settings.isGiven merged Settings.rulesName && Settings.isGiven merged Settings.policyName then
    []
  else match Settings.readRules merged with
    | .ok specification => LogEntry.ofSpecification specification
    | .error _ => []

/-- The settings by the file and the variables. -/
def load (file : Option ConfigurationFile) (env : Environment) :
    Logged (Except ConfigurationFault Settings) :=
  match entries file with
  | .error fault => ⟨[], .error fault⟩
  | .ok data =>
    let merged := Settings.merge data env
    ⟨readLog merged, (Settings.ofEntries merged).mapError .invalid⟩

/-- The log entries about the policy of settings, for which a specification is read once more. -/
def policyLog (settings : Settings) : List LogEntry :=
  match settings.policy with
  | some _ => []
  | none => LogEntry.ofSpecification settings.rules

end Configuration

end PasswordPolicy.Console
