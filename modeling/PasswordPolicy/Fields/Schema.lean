import PasswordPolicy.Fields.Basic

/-!
# Schemas

The JSON schemas of definitions and of configurations. A schema of a record lists its properties,
each with a type and a default, and admits no others. Besides the document, a schema has a meaning:
which values conform to it.
-/

namespace PasswordPolicy

inductive PropertyType
  | integer (minimum : Int)
  | boolean
deriving DecidableEq, Repr

/-- A property of a record. -/
structure Property where
  name : String
  title : String
  type : PropertyType
  default : Value
deriving Repr

/-- The schema of a record with the given properties, none of them required, and no others. -/
structure RecordSchema where
  title : String
  description : String
  properties : List Property
deriving Repr

/-! ### Meaning -/

def PropertyType.Admits : PropertyType → Value → Prop
  | integer minimum, .int i => minimum ≤ i
  | boolean, .bool _ => True
  | _, _ => False

def RecordSchema.property? (schema : RecordSchema) (name : String) : Option Property :=
  schema.properties.find? (·.name == name)

/-- A value conforms to the schema if it is a record whose entries all are values of properties. -/
def RecordSchema.Conforms (schema : RecordSchema) : Value → Prop
  | .record entries => ∀ entry ∈ entries, ∃ name property,
      entry.1 = .text name ∧ schema.property? name = some property ∧ property.type.Admits entry.2
  | _ => False

/-! ### Documents -/

/-- The part of a schema that states the type of a property. -/
def PropertyType.keywords : PropertyType → List (String × Value)
  | integer minimum => [("minimum", .int minimum), ("type", .text "integer")]
  | boolean => [("type", .text "boolean")]

def Property.document (p : Property) : Value :=
  .object ([("default", p.default), ("title", .text p.title)] ++ p.type.keywords)

def RecordSchema.document (schema : RecordSchema) : Value :=
  .object [
    ("additionalProperties", .bool false),
    ("description", .text schema.description),
    ("properties", .object (schema.properties.map fun p => (p.name, p.document))),
    ("title", .text schema.title),
    ("type", .text "object")]

/-! ### The schema of named fields -/

/-- The title of a field: its label, with a capital first letter only. -/
def Kind.title : Kind → String
  | length => "Minlength"
  | uppercase => "Minupper"
  | lowercase => "Minlower"
  | digit => "Mindigit"
  | special => "Minspecial"
  | age => "Maxage"
  | reuse => "Minunique"
  | user => "Nouser"

def Kind.propertyType (k : Kind) : PropertyType :=
  if k.isSwitch then .boolean else .integer k.default

def Kind.property (k : Kind) : Property :=
  ⟨k.label, k.title, k.propertyType, Fields.defaults.fieldValue k⟩

/-- The title of the schema of named fields. -/
def Fields.schemaTitle : String := "PasswordRulesDTO"

/-- The schema of named fields. -/
def Fields.schema : RecordSchema where
  title := schemaTitle
  description :=
    "Named-field definition of a rule set, as found in configuration files.\n\n" ++
      "Example (YAML)::\n\n    minLength: 12\n    minDigit: 1\n    maxAge: 90\n" ++
      "    minUnique: 5\n    noUser: true"
  properties := Kind.all.map Kind.property

/-- The schema of a configuration: a specification, or a definition by named fields, or neither. -/
def configurationSchema : Value :=
  .object [
    ("$defs", .object [(Fields.schemaTitle, Fields.schema.document)]),
    ("additionalProperties", .bool false),
    ("description", .text <|
      "Password policy settings.\n\nThe policy is given either as a rule specification string " ++
        "(``rules``) or as\nnamed fields (``policy``), never both."),
    ("properties", .object [
      ("policy", .object [
        ("anyOf", .list [
          .object [("$ref", .text ("#/$defs/" ++ Fields.schemaTitle))],
          .object [("type", .text "null")]]),
        ("default", .null)]),
      ("rules", .object [
        ("default", .text ""), ("title", .text "Rules"), ("type", .text "string")])]),
    ("title", .text "Settings"),
    ("type", .text "object")]

end PasswordPolicy
