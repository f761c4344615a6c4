import PasswordPolicy.Fields.Schema
import PasswordPolicy.Text.Template

/-!
# The wording of errors

Errors are found in the words of whoever reads a value, for whatever purpose, and told in the words
of definitions. Types that make no difference to a definition are told under one name, errors of
some types get another message, and the values that a message is about are told only in it.
-/

namespace PasswordPolicy

/-- An error in words. The context holds the values that the message is about, as texts. -/
structure Finding where
  type : String
  location : List Scalar
  message : String
  input : Value
  context : List (String × String)
deriving Repr

/-! ### Messages with places -/

/-- A piece of a message: a text, or a place for the value of the name. -/
inductive Piece
  | text (s : String)
  | place (name : String)
deriving DecidableEq, Repr

namespace Piece

/-- The piece with its place left open. -/
def unfilled : Piece → String
  | text s => s
  | place name => "\x7b" ++ name ++ "\x7d"

def filled (context : List (String × String)) : Piece → Except Text.PlaceError String
  | text s => .ok s
  | place name =>
    match context.lookup name with
    | some value => .ok value
    | none => .error (.missingKey (.text name))

end Piece

/-- The message that the pieces make up. Its places stay open if there is no context at all. -/
def messageOf (pieces : List Piece) (context : List (String × String)) :
    Except Text.PlaceError String :=
  if context.isEmpty then .ok (String.join (pieces.map Piece.unfilled))
  else (pieces.mapM (Piece.filled context)).map String.join

/-! ### Vocabularies -/

/-- Other names for types, and messages for types under their other names. -/
structure Vocabulary where
  types : List (String × String)
  messages : List (String × List Piece)

namespace Vocabulary

/-- The words in which definitions are reported on. -/
def own : Vocabulary where
  types := [("dict_type", "mapping_type"), ("model_attributes_type", "mapping_type"),
    ("model_type", "mapping_type"), ("extra_forbidden", "extra_field")]
  messages := [
    ("extra_field", [.text "Extra fields not allowed"]),
    ("missing", [.text "Field is required"]),
    ("mapping_type", [.text "Input must be a valid mapping"]),
    ("greater_than_equal", [.text "Input must be greater than or equal to ", .place "ge"])]

/-- The name under which a type is told; an empty name counts as none. -/
def typeName (v : Vocabulary) (type : String) : String :=
  ((v.types.lookup type).filter (· ≠ "")).getD type

/-- The pieces of the message for a type under its other name, if that message is not empty. -/
def pieces? (v : Vocabulary) (type : String) : Option (List Piece) :=
  (v.messages.lookup type).filter fun pieces => String.join (pieces.map Piece.unfilled) ≠ ""

/-- The message for a finding of the type, which may be the one that it has. -/
def message (v : Vocabulary) (type : String) (f : Finding) : Except Text.PlaceError String :=
  match v.pieces? type with
  | some pieces => messageOf pieces f.context
  | none => .ok f.message

/-- The finding in other words. -/
def reword (v : Vocabulary) (f : Finding) : Except Text.PlaceError Finding :=
  (v.message (v.typeName f.type) f).map fun message =>
    ⟨v.typeName f.type, f.location, message, f.input, []⟩

/-- All findings in other words, one after the other. -/
def rewordAll (v : Vocabulary) : List Finding → Except Text.PlaceError (List Finding)
  | [] => .ok []
  | f :: rest => (v.reword f).bind fun told => (v.rewordAll rest).map (told :: ·)

end Vocabulary

/-! ### Faults as they are found -/

namespace Fault

/-- The type under which a fault is found. -/
def foundCode : Fault → String
  | notMapping => "model_type"
  | unknownField => "extra_forbidden"
  | fault => fault.code

/-- The message with which a fault is found. -/
def foundMessage : Fault → String
  | notMapping => "Input should be a valid dictionary or instance of " ++ Fields.schemaTitle
  | unknownField => "Extra inputs are not permitted"
  | below bound =>
    "Input should be greater than or equal to " ++ String.ofList (Text.decimal bound)
  | fault => fault.message

/-- The values that the message of a fault is about. -/
def context : Fault → List (String × String)
  | notMapping => [("class_name", Fields.schemaTitle)]
  | below bound => [("ge", String.ofList (Text.decimal bound))]
  | broken message => [("error", message)]
  | _ => []

end Fault

/-- The error as it is found. -/
def FieldError.found (e : FieldError) : Finding :=
  ⟨e.fault.foundCode, e.location, e.fault.foundMessage, e.input, e.fault.context⟩

/-- The report on errors in the words of definitions, in the order in which they were found. -/
def FieldError.tell (errors : List FieldError) : Except Text.PlaceError (List Finding) :=
  Vocabulary.own.rewordAll (errors.map FieldError.found)

end PasswordPolicy
