import PasswordPolicy.Settings.Environment
import PasswordPolicy.Specification.Reader

/-!
# Settings

The settings of a program are a specification, called `rules`, or a definition by named fields,
called `policy`, but not both. They are merged from given data and from environment variables, which
override the data; definitions are merged field by field. The rule that only one of the two may be
given looks at the merged data before anything else is checked, and counts an empty value as not
given.

The data are handed to the library that reads the settings as named arguments, and it has parameters
of its own, all with an underscore in front. Data that set one of them are outside of what is
described here, where every name that is no setting is unknown.
-/

namespace PasswordPolicy

/-- The settings of a program. -/
structure Settings where
  rules : String
  policy : Option Fields

namespace Settings

/-- The name of the setting that holds a specification. -/
def rulesName : String := "rules"

/-- The name of the setting that holds named fields. -/
def policyName : String := "policy"

/-! ### Merging data and variables -/

/-- Is the key the name in some case? -/
def isCaseOf (name : String) : Scalar → Bool
  | .text key => Environment.lowerName key == name
  | _ => false

/-- The value that the data give to the setting: the first one under its name in any case. -/
def given? (data : Entries) (name : String) : Option Value :=
  (data.find? fun entry => isCaseOf name entry.1).map (·.2)

/-- Do the data set a parameter of the library that reads the settings? The names of these begin
with an underscore. -/
def setsParameter (data : Entries) : Bool :=
  data.any fun entry =>
    match entry.1 with
    | .text name => name.toList.head? == some '_'
    | _ => false

/-- Do the data name the setting by its exact name? -/
def isNamed (data : Entries) (name : String) : Bool := (data.get? (.text name)).isSome

/-- The entries of the data that give neither setting. -/
def strangers (data : Entries) : Entries :=
  data.filter fun entry => !(isCaseOf rulesName entry.1 || isCaseOf policyName entry.1)

/-- The value of a setting by the data and by the variables, the latter overriding the former. -/
def mergedValue (given fromEnvironment : Option Value) : Option Value :=
  match given, fromEnvironment with
  | some earlier, some later => some (earlier.merge later)
  | given, none => given
  | none, later => later

/-- Where the entry of a setting stands among the merged entries. -/
inductive Place
  /-- In front, because the data give it under its name in another case. -/
  | first
  /-- Behind the strangers, because only the variables give it. -/
  | middle
  /-- At the end, because the data name it exactly. -/
  | last
deriving DecidableEq, Repr

def placeOf (data : Entries) (name : String) : Place :=
  if isNamed data name then .last
  else if (given? data name).isSome then .first
  else .middle

def mergedAt (place : Place) (data : Entries) (env : Environment) : Entries :=
  [(rulesName, env.rules?), (policyName, env.policy?)].filterMap fun (name, fromEnvironment) =>
    if placeOf data name = place then
      (mergedValue (given? data name) fromEnvironment).map fun value => (.text name, value)
    else none

/-- The merged data: settings that the data give under another case of their names, then what gives
no setting, then what only the variables give, then settings that the data name exactly. -/
def merge (data : Entries) (env : Environment) : Entries :=
  mergedAt .first data env ++ strangers data ++ mergedAt .middle data env ++
    mergedAt .last data env

/-! ### Checking -/

/-- The wording of the rule that only one setting may be given. -/
def exclusiveMessage : String := "input must include either 'rules' or 'policy', not both"

/-- Is the setting given, and not empty? -/
def isGiven (entries : Entries) (name : String) : Bool :=
  match entries.get? (.text name) with
  | some value => value.truthy
  | none => false

/-- The specification that the entries give; none is given by an empty text. -/
def readRules (entries : Entries) : Except (List FieldError) String :=
  let error (fault : Fault) (value : Value) : List FieldError := [⟨[.text rulesName], fault, value⟩]
  match entries.get? (.text rulesName) with
  | none => .ok ""
  | some (.text specification) =>
    match Policy.ofSpecification specification with
    | .ok _ => .ok specification
    | .error e => .error (error (.broken e.message) (.text specification))
  | some value => .error (error .notText value)

/-- The named fields that the entries give. -/
def readPolicy (entries : Entries) : Except (List FieldError) (Option Fields) :=
  match entries.get? (.text policyName) with
  | none => .ok none
  | some .null => .ok none
  | some value =>
    match Fields.ofValue value with
    | .ok fields => .ok (some fields)
    | .error errors => .error (errors.map (·.within (.text policyName)))

def unknownErrors (entries : Entries) : List FieldError :=
  entries.filterMap fun entry =>
    if entry.1 == .text rulesName || entry.1 == .text policyName then none
    else some ⟨[entry.1], .unknownField, entry.2⟩

/-- The errors of a result. -/
def errorsOf {α : Type} : Except (List FieldError) α → List FieldError
  | .ok _ => []
  | .error errors => errors

/-- The settings that merged entries give. -/
def ofEntries (entries : Entries) : Except (List FieldError) Settings :=
  if isGiven entries rulesName && isGiven entries policyName then
    .error [⟨[], .broken exclusiveMessage, .record entries⟩]
  else
    let unknown := unknownErrors entries
    match readRules entries, readPolicy entries with
    | .ok rules, .ok policy => if unknown.isEmpty then .ok ⟨rules, policy⟩ else .error unknown
    | rules, policy => .error (errorsOf rules ++ errorsOf policy ++ unknown)

/-- The settings that data and variables give. -/
def load (data : Entries) (env : Environment) : Except (List FieldError) Settings :=
  ofEntries (merge data env)

/-- The policy of the settings: that of the named fields if there are any, and that of the
specification otherwise. -/
def toPolicy (settings : Settings) : Except Specification.Error Policy :=
  match settings.policy with
  | some fields => .ok fields.toPolicy
  | none => Policy.ofSpecification settings.rules

end Settings

end PasswordPolicy
