import PasswordPolicy.Fields.Basic

/-!
# Policies from fields

A policy is built from a record of fields, to which single fields can be added; an added field takes
the place of one of the same name. A value that counts as empty stands for a record without fields.
-/

namespace PasswordPolicy

/-- Why no policy can be built. -/
inductive BuildError
  /-- The fields are no record but a value of the named type. -/
  | notRecord (typeName : String)
  /-- The fields have faults. -/
  | faulty (errors : List FieldError)
deriving Repr

/-- The text of the error that the fields are no record. -/
def notRecordMessage (typeName : String) : String :=
  Text.quoted typeName ++ " object is not a mapping"

/-- The entries of a value that is to be a record of fields. -/
def Fields.entriesOf (fields : Value) : Except BuildError Entries :=
  if !fields.truthy then .ok []
  else match fields with
    | .record entries => .ok entries
    | value => .error (.notRecord value.typeName)

/-- The policy that the fields define, with the added fields. -/
def Policy.ofFields (fields : Value) (added : Entries) : Except BuildError Policy := do
  let entries ← Fields.entriesOf fields
  match Fields.ofEntries (Entries.override entries added) with
  | .ok fields => .ok fields.toPolicy
  | .error errors => .error (.faulty errors)

end PasswordPolicy
