import PasswordPolicy.Text.Decimal
import PasswordPolicy.Text.Quoted

/-!
# Failures

Why the text of a document gives no value. Either the text is not one well-formed document, and then
no reason is given; or it is well formed and holds something that has no value, such as a date in a
month that does not exist.
-/

namespace PasswordPolicy.Yaml

/-- What has no value in a document. -/
inductive Defect
  /-- An integer has so many digits, which is too many. -/
  | integerTooLong (count : Nat)
  /-- The text is no integer in the base. -/
  | notInteger (base : Nat) (text : String)
  /-- The text is no floating-point number. -/
  | notReal (text : String)
  /-- A number is said to stand where there is no text. -/
  | emptyNumber
  /-- The word is no truth value. -/
  | notSwitch (word : String)
  | noSuchYear (year : Nat)
  | noSuchMonth
  | noSuchDay
  | noSuchHour
  | noSuchMinute
  | noSuchSecond
  /-- A time falls out of the years 1 to 9999 because of its offset. -/
  | timeOutOfRange
  /-- No character has the code point. -/
  | noSuchCharacter
  /-- A code point does not fit into 31 bits. -/
  | codePointTooLarge
  /-- A value of the named type stands in a list that serves as a key. -/
  | unusableKey (typeName : String)
deriving DecidableEq, Repr

def Defect.message : Defect → String
  | integerTooLong count => Text.tooManyDigitsMessage count
  | notInteger base text =>
    "invalid literal for int() with base " ++ toString base ++ ": " ++ Text.quoted text
  | notReal text => "could not convert string to float: " ++ Text.quoted text
  | emptyNumber => "string index out of range"
  | notSwitch word => Text.quoted word
  | noSuchYear year => "year " ++ toString year ++ " is out of range"
  | noSuchMonth => "month must be in 1..12"
  | noSuchDay => "day is out of range for month"
  | noSuchHour => "hour must be in 0..23"
  | noSuchMinute => "minute must be in 0..59"
  | noSuchSecond => "second must be in 0..59"
  | timeOutOfRange => "date value out of range"
  | noSuchCharacter => "chr() arg not in range(0x110000)"
  | codePointTooLarge => "Python int too large to convert to C int"
  | unusableKey typeName => "unhashable type: " ++ Text.quoted typeName

/-- Why a text gives no value. -/
inductive Failure
  /-- The text is not one well-formed document. -/
  | broken
  /-- The document is well formed but holds something that has no value. -/
  | defective (defect : Defect)
deriving DecidableEq, Repr

end PasswordPolicy.Yaml
