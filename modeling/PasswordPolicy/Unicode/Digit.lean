import PasswordPolicy.Unicode.Category

/-!
# Decimal digits

The decimal digits of all scripts. In every script they come in runs of ten, from zero to nine.
-/

namespace PasswordPolicy.Unicode

/-- The value of a decimal digit of any script. -/
def digitValue? (c : Char) : Option Nat :=
  (decimalDigits.find? (·.contains c.toNat)).map fun run => (c.toNat - run.first) % 10

/-- The number that the digits at the start of a text stand for, after a number read so far, with
what follows them. -/
def digitsFrom (value : Nat) : List Char → Nat × List Char
  | [] => (value, [])
  | c :: rest =>
    match digitValue? c with
    | some digit => digitsFrom (10 * value + digit) rest
    | none => (value, c :: rest)

end PasswordPolicy.Unicode
