import PasswordPolicy.Text.Decimal
import PasswordPolicy.Value

/-!
# JSON texts

Reading a value from its JSON text. A number with a fraction or an exponent is a floating-point
number, any other number an integer, which may not have too many digits; the infinities and NaN have
names. If a record names a key twice, the last value counts and the first place.
-/

namespace PasswordPolicy.Json

/-- Drops white space between the parts of a JSON text. -/
def skipBlank (text : List Char) : List Char :=
  text.dropWhile fun c => c == ' ' || c == '\t' || c == '\n' || c == '\r'

/-! ### Strings -/

/-- The value of a hexadecimal digit. -/
def hexValue? (c : Char) : Option Nat :=
  if '0' ≤ c ∧ c ≤ '9' then some (c.toNat - 48)
  else if 'a' ≤ c ∧ c ≤ 'f' then some (c.toNat - 87)
  else if 'A' ≤ c ∧ c ≤ 'F' then some (c.toNat - 55)
  else none

/-- The number that four hexadecimal digits stand for. -/
def hexValue4? (a b c d : Char) : Option Nat := do
  return (((← hexValue? a) * 16 + (← hexValue? b)) * 16 + (← hexValue? c)) * 16 + (← hexValue? d)

/-- The character that an escape of one letter stands for. -/
def escapedChar? : Char → Option Char
  | '\x22' => some '\x22'
  | '\x5c' => some '\x5c'
  | '/' => some '/'
  | 'b' => some '\x08'
  | 'f' => some '\x0c'
  | 'n' => some '\n'
  | 'r' => some '\r'
  | 't' => some '\t'
  | _ => none

/-- The character of a single code unit. Half of a pair is shown by the replacement character. -/
def unitChar (unit : Nat) : Char :=
  if 0xd800 ≤ unit ∧ unit ≤ 0xdfff then '\ufffd' else Char.ofNat unit

/-- The character of a pair of code units. -/
def pairChar? (high low : Nat) : Option Char :=
  if 0xd800 ≤ high ∧ high ≤ 0xdbff ∧ 0xdc00 ≤ low ∧ low ≤ 0xdfff then
    some (Char.ofNat (0x10000 + (high - 0xd800) * 0x400 + (low - 0xdc00)))
  else none

/-- Reads a string up to its closing quote, after the characters `done` (last one first). -/
def readString (done : List Char) : List Char → Option (String × List Char)
  | [] => none
  | '\x22' :: rest => some (String.ofList done.reverse, rest)
  | '\x5c' :: 'u' :: a :: b :: c :: d :: '\x5c' :: 'u' :: e :: f :: g :: h :: rest =>
    match hexValue4? a b c d with
    | none => none
    | some unit =>
      match (hexValue4? e f g h).bind (pairChar? unit) with
      | some char => readString (char :: done) rest
      | none => readString (unitChar unit :: done) ('\x5c' :: 'u' :: e :: f :: g :: h :: rest)
  | '\x5c' :: 'u' :: a :: b :: c :: d :: rest =>
    match hexValue4? a b c d with
    | some unit => readString (unitChar unit :: done) rest
    | none => none
  | '\x5c' :: c :: rest =>
    match escapedChar? c with
    | some char => readString (char :: done) rest
    | none => none
  | c :: rest => if c.toNat < 0x20 then none else readString (c :: done) rest
termination_by text => text.length

/-! ### Numbers -/

/-- Takes the fraction of a number: the digits behind a point. -/
def takeFraction (text : List Char) : Option (List Char) × List Char :=
  match text with
  | '.' :: rest =>
    match rest.takeWhile Char.isDigit with
    | [] => (none, text)
    | digits => (some digits, rest.dropWhile Char.isDigit)
  | _ => (none, text)

/-- Takes the exponent of a number. -/
def takeExponent (text : List Char) : Option Int × List Char :=
  match text with
  | e :: rest =>
    if e == 'e' || e == 'E' then
      let (negative, unsigned) := match rest with
        | '-' :: unsigned => (true, unsigned)
        | '+' :: unsigned => (false, unsigned)
        | unsigned => (false, unsigned)
      match unsigned.takeWhile Char.isDigit with
      | [] => (none, text)
      | digits =>
        let size : Int := Text.digitsValue digits
        (some (if negative then -size else size), unsigned.dropWhile Char.isDigit)
    else (none, text)
  | [] => (none, text)

/-- Takes the whole part of a number: a zero, or digits that start with no zero. -/
def takeWhole : List Char → List Char × List Char
  | '0' :: rest => (['0'], rest)
  | text => (text.takeWhile Char.isDigit, text.dropWhile Char.isDigit)

def readNumber (text : List Char) : Option (Value × List Char) :=
  let (negative, unsigned) := match text with
    | '-' :: rest => (true, rest)
    | rest => (false, rest)
  match takeWhole unsigned with
  | ([], _) => none
  | (whole, afterWhole) =>
    let (fraction, afterFraction) := takeFraction afterWhole
    let (exponent, rest) := takeExponent afterFraction
    match fraction, exponent with
    | none, none =>
      if Text.maxDigits < whole.length then none
      else
        let value : Int := Text.digitsValue whole
        some (.int (if negative then -value else value), rest)
    | _, _ =>
      let decimals := fraction.getD []
      let power := exponent.getD 0 - decimals.length
      some (.real (.ofDecimal negative (Text.digitsValue (whole ++ decimals)) power), rest)

/-! ### Values -/

mutual

/-- Reads a value. The first argument bounds the parts of the text that are read. -/
def readValue : Nat → List Char → Option (Value × List Char)
  | 0, _ => none
  | fuel + 1, text =>
    match skipBlank text with
    | '\x7b' :: rest =>
      match skipBlank rest with
      | '\x7d' :: rest => some (.record [], rest)
      | rest => readMembers fuel [] rest
    | '[' :: rest =>
      match skipBlank rest with
      | ']' :: rest => some (.list [], rest)
      | rest => readItems fuel [] rest
    | '\x22' :: rest => (readString [] rest).map fun (s, rest) => (.text s, rest)
    | 'n' :: 'u' :: 'l' :: 'l' :: rest => some (.null, rest)
    | 't' :: 'r' :: 'u' :: 'e' :: rest => some (.bool true, rest)
    | 'f' :: 'a' :: 'l' :: 's' :: 'e' :: rest => some (.bool false, rest)
    | 'N' :: 'a' :: 'N' :: rest => some (.real .nan, rest)
    | 'I' :: 'n' :: 'f' :: 'i' :: 'n' :: 'i' :: 't' :: 'y' :: rest =>
      some (.real (.infinite false), rest)
    | '-' :: 'I' :: 'n' :: 'f' :: 'i' :: 'n' :: 'i' :: 't' :: 'y' :: rest =>
      some (.real (.infinite true), rest)
    | rest => readNumber rest

/-- Reads the entries of a record after those already read. -/
def readMembers : Nat → Entries → List Char → Option (Value × List Char)
  | 0, _, _ => none
  | fuel + 1, entries, text =>
    match skipBlank text with
    | '\x22' :: rest =>
      match readString [] rest with
      | none => none
      | some (name, rest) =>
        match skipBlank rest with
        | ':' :: rest =>
          match readValue fuel rest with
          | none => none
          | some (value, rest) =>
            let entries := Entries.put entries (.text name) value
            match skipBlank rest with
            | '\x7d' :: rest => some (.record entries, rest)
            | ',' :: rest => readMembers fuel entries rest
            | _ => none
        | _ => none
    | _ => none

/-- Reads the items of a list after those already read, which come last one first. -/
def readItems : Nat → List Value → List Char → Option (Value × List Char)
  | 0, _, _ => none
  | fuel + 1, items, text =>
    match readValue fuel text with
    | none => none
    | some (item, rest) =>
      match skipBlank rest with
      | ']' :: rest => some (.list (item :: items).reverse, rest)
      | ',' :: rest => readItems fuel (item :: items) rest
      | _ => none

end

/-- The value of a JSON text. Every part that is read takes a character, so the length of the text
is bound enough. -/
def parse? (text : String) : Option Value :=
  let chars := text.toList
  match readValue (2 * chars.length + 2) chars with
  | some (value, rest) => if (skipBlank rest).isEmpty then some value else none
  | none => none

end PasswordPolicy.Json
