import PasswordPolicy.Unicode.Digit
import PasswordPolicy.Value.Display

/-!
# Messages with places

A message template holds places to be filled from a context, each written `{ctx[key]}`; a doubled
brace stands for the brace itself. The filled-in values are not searched for places again.
-/

namespace PasswordPolicy.Text

/-- The braces that open and close a place. -/
def openBrace : Char := '\x7b'

/-- The brace that closes a place. -/
def closeBrace : Char := '\x7d'

/-- Why a place cannot be filled. -/
inductive PlaceError
  /-- The context does not have the key of the place. -/
  | missingKey (key : Scalar)
  /-- Nothing stands between the brackets. -/
  | emptyKey
  /-- The key starts with a number that does not fit into 63 bits. -/
  | numberTooLarge
deriving DecidableEq, Repr

def PlaceError.message : PlaceError → String
  | missingKey key => key.display
  | emptyKey => "Empty attribute in format string"
  | numberTooLarge => "Too many decimal digits in format string"

/-- A value that is filled in: texts stand for themselves. -/
def filledIn : Value → String
  | .text s => s
  | value => value.display

/-- The key between the brackets of a place: digits alone, of whatever script, are a number, all
else is a text. -/
def placeKey (key : List Char) : Except PlaceError Scalar :=
  if key.isEmpty then .error .emptyKey
  else
    let (value, rest) := Unicode.digitsFrom 0 key
    if Nat.pow 2 63 ≤ value then .error .numberTooLarge
    else if rest.isEmpty then .ok (.int value)
    else .ok (.text (String.ofList key))

/-- The text of the context under a key. -/
def lookUp (context : Entries) (key : Scalar) : Except PlaceError (List Char) :=
  match context.get? key with
  | none => .error (.missingKey key)
  | some value => .ok (filledIn value).toList

def fill (context : Entries) : List Char → Except PlaceError (List Char)
  | [] => .ok []
  | '\x7b' :: '\x7b' :: rest => (fill context rest).map (openBrace :: ·)
  | '\x7d' :: '\x7d' :: rest => (fill context rest).map (closeBrace :: ·)
  | '\x7b' :: 'c' :: 't' :: 'x' :: '[' :: rest =>
    match (placeKey (rest.takeWhile (· != ']'))).bind (lookUp context) with
    | .error e => .error e
    | .ok text => (fill context ((rest.dropWhile (· != ']')).drop 2)).map (text ++ ·)
  | c :: rest => (fill context rest).map (c :: ·)
termination_by template => template.length
decreasing_by
  all_goals simp only [List.length_cons, List.length_drop]
  all_goals try omega
  have := (List.dropWhile_suffix (l := rest) (· != ']')).length_le
  omega

def fillTemplate (context : Entries) (template : String) : Except PlaceError String :=
  (fill context template.toList).map String.ofList

end PasswordPolicy.Text
