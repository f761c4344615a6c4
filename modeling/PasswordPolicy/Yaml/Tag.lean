import PasswordPolicy.Yaml.Scalar.Number
import PasswordPolicy.Yaml.Scalar.Timestamp

/-!
# Tags

The tag of a node tells what kind of value it stands for. A plain scalar without a tag has the tag
that fits its text, by the forms of YAML 1.2: `yes` and `010` are a text and the number ten.
-/

namespace PasswordPolicy.Yaml

/-- What kind of value a node stands for. -/
inductive Tag
  | null
  | bool
  | int
  | real
  | timestamp
  | text
  /-- A key whose value is a record to be merged. -/
  | merge
  /-- A sign that is a text as a key and has no value elsewhere. -/
  | defaultValue
  | sequence
  | mapping
deriving DecidableEq, Repr

namespace Tag

/-- The tag with a name of the standard. -/
def ofName? : String → Option Tag
  | "null" => some null
  | "bool" => some bool
  | "int" => some int
  | "float" => some real
  | "timestamp" => some timestamp
  | "str" => some text
  | "merge" => some merge
  | "value" => some defaultValue
  | "seq" => some sequence
  | "map" => some mapping
  | _ => none

/-- The tag of a plain scalar with this text. -/
def ofPlain (chars : List Char) : Tag :=
  let word := String.ofList chars
  if ["true", "True", "TRUE", "false", "False", "FALSE"].contains word then bool
  else if isReal chars then real
  else if isInteger chars then int
  else if word == "<<" then merge
  else if ["", "~", "null", "Null", "NULL"].contains word then null
  else if isTimestamp chars then timestamp
  else if word == "=" then defaultValue
  else text

end Tag

/-- The truth value that a word stands for, whatever its case. -/
def readSwitch (chars : List Char) : Except Defect Bool :=
  let word := String.ofList (chars.map Char.toLower)
  if ["true", "yes", "y", "on"].contains word then .ok true
  else if ["false", "no", "n", "off"].contains word then .ok false
  else .error (.notSwitch word)

def Tag.scalarValue (tag : Tag) (s : String) : Except Failure Scalar :=
  let chars := s.toList
  match tag with
  | null => .ok .null
  | bool => ((readSwitch chars).map Scalar.bool).mapError .defective
  | int => ((readInteger chars).map Scalar.int).mapError .defective
  | real => ((readReal chars).map Scalar.real).mapError .defective
  | timestamp =>
    match Timestamp.ofText? chars with
    | some stamp => stamp.value.mapError .defective
    | none => .error .broken
  | text => .ok (.text s)
  | merge | defaultValue | sequence | mapping => .error .broken

end PasswordPolicy.Yaml
