import PasswordPolicy.Value.Display

/-!
# Faults of definitions

What can be wrong with a value in a definition, and where. A report of faults lists the faults of
the known fields first, in the order of the fields, and then the unknown fields, in the order in
which the definition gives them.
-/

namespace PasswordPolicy

/-- What is wrong with a value. -/
inductive Fault
  | notMapping
  | unknownField
  | keyNotText
  | notInteger
  | unreadableInteger
  | fractional
  | integerTooLarge
  | notFinite
  | below (bound : Int)
  | notSwitch
  | unreadableSwitch
  | notText
  /-- The value breaks a rule; the message says which. -/
  | broken (message : String)
deriving DecidableEq, Repr

def Fault.code : Fault → String
  | notMapping => "mapping_type"
  | unknownField => "extra_field"
  | keyNotText => "invalid_key"
  | notInteger => "int_type"
  | unreadableInteger => "int_parsing"
  | fractional => "int_from_float"
  | integerTooLarge => "int_parsing_size"
  | notFinite => "finite_number"
  | below _ => "greater_than_equal"
  | notSwitch => "bool_type"
  | unreadableSwitch => "bool_parsing"
  | notText => "string_type"
  | broken _ => "value_error"

/-- The wording of a fault. -/
def Fault.message : Fault → String
  | notMapping => "Input must be a valid mapping"
  | unknownField => "Extra fields not allowed"
  | keyNotText => "Keys should be strings"
  | notInteger => "Input should be a valid integer"
  | unreadableInteger => "Input should be a valid integer, unable to parse string as an integer"
  | fractional => "Input should be a valid integer, got a number with a fractional part"
  | integerTooLarge => "Unable to parse input string as an integer, exceeded maximum size"
  | notFinite => "Input should be a finite number"
  | below bound =>
    "Input must be greater than or equal to " ++ String.ofList (Text.decimal bound)
  | notSwitch => "Input should be a valid boolean"
  | unreadableSwitch => "Input should be a valid boolean, unable to interpret input"
  | notText => "Input should be a valid string"
  | broken message => "Value error, " ++ message

/-- A fault with the keys that lead to the faulty value, outermost first, and that value. -/
structure FieldError where
  location : List Scalar
  fault : Fault
  input : Value
deriving Repr

namespace FieldError

/-- The error as seen from outside the record that is found under a key. -/
def within (key : Scalar) (e : FieldError) : FieldError := { e with location := key :: e.location }

/-- The keys of a location in messages: in parentheses, a single one with a comma behind it. -/
def displayLocation : List Scalar → String
  | [key] => "(" ++ key.display ++ ",)"
  | keys => enclosed "(" ")" (keys.map Scalar.display)

/-- The error in messages. -/
def display (e : FieldError) : String :=
  enclosed "\x7b" "\x7d" [
    "'type': " ++ Text.quoted e.fault.code,
    "'loc': " ++ displayLocation e.location,
    "'msg': " ++ Text.quoted e.fault.message,
    "'input': " ++ e.input.display]

/-- A report in messages. -/
def displayAll (errors : List FieldError) : String := enclosed "[" "]" (errors.map display)

end FieldError

end PasswordPolicy
