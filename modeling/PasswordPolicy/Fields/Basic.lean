import PasswordPolicy.Fields.Convert
import PasswordPolicy.Policy

/-!
# Named fields

A policy can be defined by named fields, one for each kind of constraint. Each field has two names:
the *label*, used in files, and the *key*, used in programs. A definition may use either; if it uses
both for one field, the label counts and the key is an unknown field.

Main statement: a definition is accepted exactly if its report is empty, and the report is made up
of one error for each given field that cannot be read, and one for each key that belongs to no
field.
-/

namespace PasswordPolicy

/-! ### Names -/

/-- The name of the field in files. -/
def Kind.label : Kind → String
  | length => "minLength"
  | uppercase => "minUpper"
  | lowercase => "minLower"
  | digit => "minDigit"
  | special => "minSpecial"
  | age => "maxAge"
  | reuse => "minUnique"
  | user => "noUser"

/-- The name of the field in programs. -/
def Kind.key : Kind → String
  | length => "min_length"
  | uppercase => "min_upper"
  | lowercase => "min_lower"
  | digit => "min_digit"
  | special => "min_special"
  | age => "max_age"
  | reuse => "min_unique"
  | user => "no_user"

/-! ### Definitions -/

instance (value : Kind → Int) : Decidable (∀ k, Kind.Admissible k (value k)) :=
  decidable_of_iff (∀ k ∈ Kind.all, k.Admissible (value k))
    ⟨fun h k => h k (Kind.mem_all k), fun h k _ => h k⟩

/-- A definition of a policy by named fields: an admissible value for each kind. -/
@[ext] structure Fields where
  value : Kind → Int
  admissible : ∀ k : Kind, k.Admissible (value k)

namespace Fields

/-- The definition whose fields all have their defaults. -/
def defaults : Fields := ⟨Kind.default, Kind.admissible_default⟩

instance : Inhabited Fields := ⟨defaults⟩

/-- The value of a field as data: a switch is a truth value. -/
def fieldValue (fields : Fields) (k : Kind) : Value :=
  if k.isSwitch then .bool (fields.value k == 1) else .int (fields.value k)

/-- All fields under their labels, in order. -/
def labelled (fields : Fields) : List (String × Value) :=
  Kind.all.map fun k => (k.label, fields.fieldValue k)

/-- The definition as a record. -/
def toValue (fields : Fields) : Value := .object fields.labelled

/-- The policy that the fields define; it stores a value for every kind. -/
def toPolicy (fields : Fields) : Policy := ⟨fun k => some (fields.value k)⟩

@[simp] theorem get_toPolicy (fields : Fields) (k : Kind) :
    fields.toPolicy.get k = fields.value k := rfl

/-! ### From entries -/

/-- The name under which the entries give the field of the kind, with the value. -/
def given (entries : Entries) (k : Kind) : Option (String × Value) :=
  match entries.get? (.text k.label) with
  | some value => some (k.label, value)
  | none => (entries.get? (.text k.key)).map fun value => (k.key, value)

/-- The error of the field of the kind, if it is given and cannot be read. -/
def fieldError? (entries : Entries) (k : Kind) : Option FieldError :=
  match given entries k with
  | none => none
  | some (name, value) =>
    match k.readField value with
    | .ok _ => none
    | .error fault => some ⟨[.text name], fault, value⟩

/-- Does the key name a field, and is it the name by which that field is given? -/
def isFieldKey (entries : Entries) (key : Scalar) : Bool :=
  Kind.all.any fun k =>
    match given entries k with
    | none => false
    | some (name, _) => key == .text name

/-- Does the integer fit into 64 bits? -/
def isWord (i : Int) : Bool := -(Nat.pow 2 63 : Int) ≤ i && i < (Nat.pow 2 63 : Int)

/-- The place of an entry with the key: a truth value counts as zero or one, and a key that is
neither a text nor an integer of 64 bits is shown. -/
def keyLocation : Scalar → Scalar
  | .text name => .text name
  | .bool b => .int (switchValue b)
  | .int i => if isWord i then .int i else .text (Scalar.int i).display
  | key => .text key.display

/-- The value that a key is as data. -/
def keyInput (key : Scalar) : Value := .scalar key

/-- The error of an entry that gives no field. -/
def strangerError? (entries : Entries) (entry : Scalar × Value) : Option FieldError :=
  if isFieldKey entries entry.1 then none
  else match entry.1 with
    | .text name => some ⟨[.text name], .unknownField, entry.2⟩
    | key => some ⟨[keyLocation key], .keyNotText, keyInput key⟩

/-- The report on the entries: the errors of the fields in order, then those of the strangers. -/
def report (entries : Entries) : List FieldError :=
  Kind.all.filterMap (fieldError? entries) ++ entries.filterMap (strangerError? entries)

/-- The value of the field of the kind by the entries, or its default if it is not given or cannot
be read. -/
def readValue (entries : Entries) (k : Kind) : { value : Int // k.Admissible value } :=
  match given entries k with
  | none => ⟨k.default, k.admissible_default⟩
  | some (_, value) =>
    match k.readField value with
    | .ok read => read
    | .error _ => ⟨k.default, k.admissible_default⟩

/-- The definition that the entries give. -/
def ofEntries (entries : Entries) : Except (List FieldError) Fields :=
  let errors := report entries
  if errors.isEmpty then
    .ok ⟨fun k => (readValue entries k).1, fun k => (readValue entries k).2⟩
  else .error errors

/-- Entries are accepted exactly if the report on them is empty. -/
theorem ofEntries_isOk_iff {entries : Entries} :
    (∃ fields, ofEntries entries = .ok fields) ↔ report entries = [] := by
  unfold ofEntries
  cases h : report entries <;> simp

/-- The definition that a value gives. -/
def ofValue : Value → Except (List FieldError) Fields
  | .record entries => ofEntries entries
  | value => .error [⟨[], .notMapping, value⟩]

/-! ### From policies -/

/-- The value that a field needs in order to define the value of the policy. A switch is on for
every value that switches its constraint on. -/
def demanded (p : Policy) (k : Kind) : Int :=
  if k.isSwitch then switchValue (k.enabled (p.stored k)) else p.get k

def valueError? (p : Policy) (k : Kind) : Option FieldError :=
  match k.accept (demanded p k) with
  | .ok _ => none
  | .error fault => some ⟨[.text k.key], fault, .int (demanded p k)⟩

/-- The definition of a policy by fields. -/
def ofPolicy (p : Policy) : Except (List FieldError) Fields :=
  let errors := Kind.all.filterMap (valueError? p)
  if h : ∀ k : Kind, k.Admissible (demanded p k) then .ok ⟨demanded p, h⟩ else .error errors

end Fields

end PasswordPolicy
