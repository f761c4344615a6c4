import PasswordPolicy.Fields.Basic
import PasswordPolicy.Unicode.LetterCase
import PasswordPolicy.Value.Json

/-!
# Environment variables

Settings can be given by environment variables, whose names are compared without regard to case.
Each setting has a plain and a prefixed variable, of which the plain one counts. The named fields of
the policy are given together as a JSON text, or one by one in variables of their own whose names
continue the name of the setting behind two underscores.
-/

namespace PasswordPolicy

/-- The variables of a process: names and values. -/
abbrev Environment := List (String × String)

/-! ### Merging -/

/-- The later value, except that two records are merged entry by entry. -/
def Value.merge (earlier later : Value) : Value :=
  match earlier, later with
  | .record old, .record new =>
    .record <| new.attach.foldl (fun merged ⟨(key, value), _⟩ =>
      match Entries.get? old key with
      | some before => Entries.put merged key (before.merge value)
      | none => Entries.put merged key value) old
  | _, later => later
termination_by sizeOf later
decreasing_by
  next h => have := List.sizeOf_lt_of_mem h; simp at this ⊢; omega

namespace Environment

/-- The lower-case form of a name. -/
def lowerName (name : String) : String := String.ofList (Unicode.lowerCase name.toList)

/-- The value of the variable with exactly this name. -/
def get? (env : Environment) (name : String) : Option String :=
  (env.find? (·.1 == name)).map (·.2)

/-- The value of the variable whose name is, in lower case, the given one. -/
def ignoringCase? (env : Environment) (name : String) : Option String :=
  (env.findRev? fun entry => lowerName entry.1 == name).map (·.2)

/-- The lower-case prefix of prefixed variables. -/
def namePrefix : String := "password_rules_"

/-- The value of the plain variable of a setting, or else of the prefixed one. -/
def setting? (env : Environment) (name : String) : Option String :=
  (env.ignoringCase? name).or (env.ignoringCase? (namePrefix ++ name))

/-! ### Named fields -/

/-- What follows a start of a text. -/
def afterStart? (start text : List Char) : Option (List Char) :=
  if start.isPrefixOf text then some (text.drop start.length) else none

/-- The parts of a text between pairs of underscores, after the characters `done` (last one first)
of the current part. -/
def splitPairsFrom (done : List Char) : List Char → List String
  | '_' :: '_' :: rest => String.ofList done.reverse :: splitPairsFrom [] rest
  | c :: rest => splitPairsFrom (c :: done) rest
  | [] => [String.ofList done.reverse]

/-- Records within records down the path, with the value at its end. -/
def nested (path : List String) (value : Value) : Value :=
  path.foldr (fun name inner => .object [(name, inner)]) value

/-- The entry that a variable gives to the setting, if its name continues the setting's. -/
def part? (setting : String) (given : String × String) : Option Value :=
  let name := Unicode.lowerCase given.1.toList
  let plain := setting.toList ++ ['_', '_']
  let path := (afterStart? plain name).or (afterStart? (namePrefix.toList ++ plain) name)
  path.map fun path => nested (splitPairsFrom [] path) (.text given.2)

/-- The entries that single variables give to the setting. -/
def parts (env : Environment) (setting : String) : Value :=
  (env.filterMap (part? setting)).foldl Value.merge (.record [])

/-- The label of the field whose label this is, whatever its case; another name is kept. -/
def fieldName : Scalar → Scalar
  | .text name =>
    match Kind.all.find? fun k => lowerName k.label == lowerName name with
    | some k => .text k.label
    | none => .text name
  | key => key

/-- Gives every field of a record the label that is meant. -/
def nameFields : Value → Value
  | .record entries =>
    .record (entries.foldl (fun named entry => Entries.put named (fieldName entry.1) entry.2) [])
  | value => value

/-- The named fields that the variables give: those of the JSON text, if there is one, overridden by
those of single variables. A text that is no JSON text stands for itself, and null for nothing. -/
def policy? (env : Environment) : Option Value :=
  let singles := env.parts "policy"
  match env.setting? "policy" with
  | none => if singles.truthy then some (nameFields singles) else none
  | some text =>
    match Json.parse? text with
    | none => some (.text text)
    | some .null => none
    | some (.record entries) => some (nameFields ((Value.record entries).merge singles))
    | some value => some value

/-- The specification that the variables give. -/
def rules? (env : Environment) : Option Value := (env.setting? "rules").map .text

end Environment

end PasswordPolicy
