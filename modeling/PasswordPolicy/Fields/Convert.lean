import PasswordPolicy.Constraint
import PasswordPolicy.Fields.Fault
import PasswordPolicy.Unicode.Blank

/-!
# Reading the value of a field

The values of fields are read leniently. A number may be given as an integer, a truth value, a
floating-point number without fraction or a text; a switch as a truth value, as 0 or 1 in any of
those ways, or as one of a few words.

Main statement: a value that is read is admissible for the kind of its field.
-/

namespace PasswordPolicy

/-! ### Numbers -/

/-- The digits of a text of digits with single underscores between them. -/
def groupedDigits? : List Char → Option (List Char)
  | [] => none
  | [c] => if c.isDigit then some [c] else none
  | c :: '_' :: rest => if c.isDigit then (groupedDigits? rest).map (c :: ·) else none
  | c :: rest => if c.isDigit then (groupedDigits? rest).map (c :: ·) else none

/-- Takes a leading sign; the result tells whether it is a minus. -/
def takeSign : List Char → Bool × List Char
  | '-' :: rest => (true, rest)
  | '+' :: rest => (false, rest)
  | rest => (false, rest)

/-- Is the text empty or a point with at least one zero and nothing else behind it? -/
def isZeroFraction : List Char → Bool
  | [] => true
  | '.' :: zeros => !zeros.isEmpty && zeros.all (· == '0')
  | _ => false

/-- May the character stand among the zeros at the start of a number? -/
def isPadding (c : Char) : Bool := c == '0' || c == '_'

/-- A number that starts with a zero, from its last padding character or its first other digit on:
zeros at the start do not count, nor do underscores behind them. -/
def withoutPadding : List Char → List Char
  | a :: b :: rest =>
    if isPadding a && (isPadding b || b.isDigit) then withoutPadding (b :: rest)
    else a :: b :: rest
  | text => text

/-- The integer that a text stands for: white space around it and zeros at its start do not count,
and a fraction of zeros is allowed. -/
def integerOfText (text : List Char) : Except Fault Int :=
  let (negative, unsigned) := takeSign (Unicode.trimWhiteSpace text)
  let unsigned := if unsigned.head? == some '0' then withoutPadding unsigned else unsigned
  match groupedDigits? (unsigned.takeWhile (· != '.')) with
  | none => .error .unreadableInteger
  | some digits =>
    if !isZeroFraction (unsigned.dropWhile (· != '.')) then .error .unreadableInteger
    else if Text.maxDigits < digits.length then .error .integerTooLarge
    else
      let value : Int := Text.digitsValue digits
      .ok (if negative then -value else value)

/-- The integer that a floating-point number is, if it is one and fits into 64 bits. -/
def integerOfReal (x : Binary64) : Except Fault Int :=
  if !x.isFinite then .error .notFinite
  else match x.toInt? with
    | none => .error .fractional
    | some value =>
      if value.natAbs < Nat.pow 2 63 then .ok value else .error .integerTooLarge

/-- One for true and zero for false. -/
def switchValue (b : Bool) : Int := if b then 1 else 0

def Value.toInteger : Value → Except Fault Int
  | .int i => .ok i
  | .bool b => .ok (switchValue b)
  | .real x => integerOfReal x
  | .text s => integerOfText s.toList
  | _ => .error .notInteger

/-! ### Switches -/

/-- The words that switch something off. -/
def offWords : List String := ["0", "off", "f", "false", "n", "no"]

/-- The words that switch something on. -/
def onWords : List String := ["1", "on", "t", "true", "y", "yes"]

/-- The switch that a word stands for, whatever the case of its ASCII letters. -/
def switchOfText (s : String) : Except Fault Bool :=
  let word := String.ofList (s.toList.map Char.toLower)
  if offWords.contains word then .ok false
  else if onWords.contains word then .ok true
  else .error .unreadableSwitch

/-- The switch that a number stands for. -/
def switchOfInteger (i : Int) : Except Fault Bool :=
  if i = 0 then .ok false else if i = 1 then .ok true else .error .unreadableSwitch

def Value.toSwitch : Value → Except Fault Bool
  | .bool b => .ok b
  | .int i => switchOfInteger i
  | .real x =>
    match integerOfReal x with
    | .ok i => switchOfInteger i
    | .error _ => .error .notSwitch
  | .text s => switchOfText s
  | _ => .error .notSwitch

/-! ### Fields -/

/-- Accepts an integer that is admissible for the kind; another one is below the bound. -/
def Kind.accept (k : Kind) (value : Int) : Except Fault { value : Int // k.Admissible value } :=
  if h : k.Admissible value then .ok ⟨value, h⟩ else .error (.below k.default)

/-- Is the field of the kind a switch rather than a number? -/
def Kind.isSwitch (k : Kind) : Bool :=
  match k.family with
  | .minimum | .maximum => false
  | .require | .prohibit => true

def Kind.readField (k : Kind) (value : Value) :
    Except Fault { value : Int // k.Admissible value } :=
  if k.isSwitch then value.toSwitch.bind fun b => k.accept (switchValue b)
  else value.toInteger.bind k.accept

end PasswordPolicy
