import PasswordPolicy.Number.Binary64
import PasswordPolicy.Unicode.Blank
import PasswordPolicy.Yaml.Failure

/-!
# Numbers in documents

Which plain scalars are numbers, and which number the text of a scalar stands for. Integers are
written in decimal or, behind `0b`, `0o` or `0x`, in another base; the digits may be grouped by
underscores. A leading zero alone does not change the base. A scalar that is no plain one but tagged
as a number is read more freely: behind its sign there may be blanks and another sign.
-/

namespace PasswordPolicy.Yaml

/-- Takes a leading sign; the result tells whether it is a minus. -/
def takeSign : List Char → Bool × List Char
  | '-' :: rest => (true, rest)
  | '+' :: rest => (false, rest)
  | rest => (false, rest)

def withoutUnderscores (text : List Char) : List Char := text.filter (· != '_')

/-- Takes a second sign from a number that has lost its first one, and the blanks around it. -/
def takeInnerSign (text : List Char) : Bool × List Char := takeSign (Unicode.trimBlanks text)

def isDecimalPart (c : Char) : Bool := c.isDigit || c == '_'

/-! ### Integers -/

/-- Is the character a digit of the base? The bases have at most 16 digits. -/
def isDigitIn (base : Nat) (c : Char) : Bool :=
  ((c.isDigit && c.toNat - 48 < base) ||
    (base == 16 && (('a' ≤ c && c ≤ 'f') || ('A' ≤ c && c ≤ 'F'))))

/-- The value of a digit, which may be a letter. -/
def digitOf (c : Char) : Nat :=
  if c.isDigit then c.toNat - 48 else c.toLower.toNat - 87

def numberInBase (base : Nat) (digits : List Char) : Nat :=
  digits.foldl (fun n c => base * n + digitOf c) 0

/-- The base that an unsigned integer is written in, and its digits. -/
def baseOf : List Char → Nat × List Char
  | '0' :: 'b' :: digits => (2, digits)
  | '0' :: 'o' :: digits => (8, digits)
  | '0' :: 'x' :: digits => (16, digits)
  | digits => (10, digits)

/-- Is a plain scalar with this text an integer? -/
def isInteger (text : List Char) : Bool :=
  let (base, digits) := baseOf (takeSign text).2
  text.head? != some '_' && !digits.isEmpty && digits.all fun c => isDigitIn base c || c == '_'

/-- The integer that a text stands for. Underscores do not count. In decimal there may not be too
many digits. -/
def readInteger (text : List Char) : Except Defect Int :=
  let text := withoutUnderscores text
  let (negative, unsigned) := takeSign text
  let (base, written) := baseOf unsigned
  let (innerNegative, digits) := takeInnerSign written
  if text.isEmpty then .error .emptyNumber
  else if digits.isEmpty || !digits.all (isDigitIn base) then
    .error (.notInteger base (String.ofList written))
  else if base = 10 ∧ Text.maxDigits < digits.length then .error (.integerTooLong digits.length)
  else
    let value : Int := numberInBase base digits
    .ok (if negative != innerNegative then -value else value)

/-! ### Floating-point numbers -/

/-- Takes an exponent: an `e`, a sign, which may be left out unless it is needed, and digits.
Nothing at all is no exponent. -/
def exponent? (needsSign : Bool) : List Char → Option Int
  | [] => some 0
  | e :: rest =>
    let (negative, digits) := takeSign rest
    let isSigned := digits.length < rest.length
    if (e == 'e' || e == 'E') && !digits.isEmpty && digits.all Char.isDigit &&
        (isSigned || !needsSign) then
      let size : Int := Text.digitsValue digits
      some (if negative then -size else size)
    else none

/-- Is a plain scalar with this text a floating-point number? -/
def isReal (text : List Char) : Bool :=
  let unsigned := (takeSign text).2
  let whole := unsigned.takeWhile isDecimalPart
  let rest := unsigned.dropWhile isDecimalPart
  let afterPoint := (rest.drop 1).dropWhile isDecimalPart
  [".inf", ".Inf", ".INF"].contains (String.ofList unsigned) ||
    [".nan", ".NaN", ".NAN"].contains (String.ofList text) ||
    match whole.head?, rest with
    | none, '.' :: decimals =>
      (decimals.head?.map isDecimalPart).getD false && (exponent? true afterPoint).isSome
    | some first, '.' :: _ => first.isDigit && (exponent? false afterPoint).isSome
    | some first, e :: more => first.isDigit && (exponent? false (e :: more)).isSome
    | _, _ => false

/-- The number that an unsigned decimal stands for, with the given sign. -/
def decimal? (negative : Bool) (text : List Char) : Option Binary64 :=
  let whole := text.takeWhile Char.isDigit
  let rest := text.dropWhile Char.isDigit
  let (decimals, rest) := match rest with
    | '.' :: rest => (rest.takeWhile Char.isDigit, rest.dropWhile Char.isDigit)
    | rest => ([], rest)
  if whole.isEmpty && decimals.isEmpty then none
  else (exponent? false rest).map fun exponent =>
    .ofDecimal negative (Text.digitsValue (whole ++ decimals)) (exponent - decimals.length)

/-- The floating-point number that a text stands for, whatever the case of its letters. -/
def readReal (text : List Char) : Except Defect Binary64 :=
  let text := (withoutUnderscores text).map Char.toLower
  let (negative, unsigned) := takeSign text
  let written := String.ofList unsigned
  let (innerNegative, digits) := takeInnerSign unsigned
  let word := String.ofList digits
  let isNegative := negative != innerNegative
  if text.isEmpty then .error .emptyNumber
  else if written == ".inf" then .ok (.infinite negative)
  else if written == ".nan" then .ok .nan
  else if ["inf", "infinity"].contains word then .ok (.infinite isNegative)
  else if word == "nan" then .ok .nan
  else match decimal? isNegative digits with
    | some x => .ok x
    | none => .error (.notReal written)

end PasswordPolicy.Yaml
