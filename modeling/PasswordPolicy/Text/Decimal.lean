/-!
# Decimal numerals

Whole numbers are written in decimal without leading zeros, a negative one with a minus sign in
front. A run of digits is read as a number whatever its leading zeros. Main statement: reading what
was written gives the number back.
-/

namespace PasswordPolicy.Text

/-- The number that a run of digits stands for; leading zeros do not count. -/
def digitsValue (digits : List Char) : Nat := Nat.ofDigitChars 10 digits 0

/-- A natural number in decimal. -/
def decimalNat (n : Nat) : List Char := Nat.toDigits 10 n

/-- An integer in decimal, with a minus sign if it is negative. -/
def decimal (i : Int) : List Char :=
  if i < 0 then '-' :: decimalNat i.natAbs else decimalNat i.natAbs

/-- Reading a written number gives it back. -/
@[simp] theorem digitsValue_decimalNat (n : Nat) : digitsValue (decimalNat n) = n :=
  Nat.ofDigitChars_toDigits (by decide) (by decide)

/-- A written number consists of digits. -/
theorem isDigit_of_mem_decimalNat {n : Nat} {c : Char} (h : c ∈ decimalNat n) :
    c.isDigit = true :=
  Nat.isDigit_of_mem_toDigits (by decide) (by decide) h

theorem decimalNat_ne_nil (n : Nat) : decimalNat n ≠ [] := Nat.toDigits_ne_nil

@[simp] theorem decimal_natCast (n : Nat) : decimal n = decimalNat n := by
  simp [decimal]

/-! ### The limit -/

/-- The most digits that a number in a text may have, leading zeros included. -/
def maxDigits : Nat := 4300

/-- The text of the error that a number has so many digits, which is too many. -/
def tooManyDigitsMessage (count : Nat) : String :=
  "Exceeds the limit (" ++ toString maxDigits ++ " digits) for integer string conversion: " ++
    "value has " ++ toString count ++
    " digits; use sys.set_int_max_str_digits() to increase the limit"

/-- Can the integer be written? It may not have more digits than a number in a text. -/
def isWritable (i : Int) : Bool := (decimalNat i.natAbs).length ≤ maxDigits

/-- The text of the error that an integer has too many digits to be written. -/
def unwritableMessage : String :=
  "Exceeds the limit (" ++ toString maxDigits ++ " digits) for integer string conversion; " ++
    "use sys.set_int_max_str_digits() to increase the limit"

/-! ### Groups -/

/-- Writes the digits of a number in groups of three, the last group given last. -/
def groupThousands (digits : List Char) : List Char :=
  let rec go : List Char → List Char
    | a :: b :: c :: d :: rest => a :: b :: c :: ',' :: go (d :: rest)
    | rest => rest
  (go digits.reverse).reverse

end PasswordPolicy.Text
