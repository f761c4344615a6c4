import PasswordPolicy.Number.Nearest

/-!
# Binary floating-point numbers

The numbers of the 64-bit binary format, as a sign, a whole significand and a power of two, so that
every question about them is one about whole numbers. A decimal numeral is read as the number of the
format nearest to it, of two nearest ones the one with the even significand.
-/

namespace PasswordPolicy

/-- A number of the 64-bit binary format. The finite ones have a significand below 2⁵³ and an
exponent of at least -1074; both zeros are among them. -/
inductive Binary64
  | finite (negative : Bool) (significand : Nat) (exponent : Int)
  | infinite (negative : Bool)
  | nan
deriving DecidableEq, Repr

namespace Binary64

/-- `num / den` scaled by a power of two and rounded to the nearest whole number. -/
def scaledNearest (num den : Nat) (power : Int) : Nat :=
  if 0 ≤ power then divNearest (num * Nat.pow 2 power.toNat) den
  else divNearest num (den * Nat.pow 2 (-power).toNat)

/-- The number nearest to `num / den`, for a positive `den`. -/
def ofRatio (negative : Bool) (num den : Nat) : Binary64 :=
  if num = 0 then .finite negative 0 (-1074)
  else
    -- The integral part of the binary logarithm is this estimate or one less.
    let estimate : Int := (Nat.log2 num : Int) - Nat.log2 den
    let reaches :=
      if 0 ≤ estimate then den * Nat.pow 2 estimate.toNat ≤ num
      else den ≤ num * Nat.pow 2 (-estimate).toNat
    let magnitude := if reaches then estimate else estimate - 1
    let exponent := max (-1074) (magnitude - 52)
    let significand := scaledNearest num den (-exponent)
    let (significand, exponent) :=
      if significand = Nat.pow 2 53 then (Nat.pow 2 52, exponent + 1) else (significand, exponent)
    if 971 < exponent then .infinite negative else .finite negative significand exponent

/-- The number nearest to `digits · 10 ^ power`. A power that is out of reach of every number of the
format is not computed. -/
def ofDecimal (negative : Bool) (digits : Nat) (power : Int) : Binary64 :=
  if digits = 0 ∨ power < -400 - Nat.log2 digits then .finite negative 0 (-1074)
  else if 400 < power then .infinite negative
  else if 0 ≤ power then ofRatio negative (digits * Nat.pow 10 power.toNat) 1
  else ofRatio negative digits (Nat.pow 10 (-power).toNat)

/-- The magnitude of a finite number that is whole. -/
def wholeMagnitude? (significand : Nat) (exponent : Int) : Option Nat :=
  if 0 ≤ exponent then some (significand * Nat.pow 2 exponent.toNat)
  else
    let unit := Nat.pow 2 (-exponent).toNat
    if significand % unit = 0 then some (significand / unit) else none

/-- The integer that the number is, if it is one. -/
def toInt? : Binary64 → Option Int
  | finite negative significand exponent =>
    (wholeMagnitude? significand exponent).map fun n => if negative then -(n : Int) else n
  | infinite _ => none
  | nan => none

def isFinite : Binary64 → Bool
  | finite _ _ _ => true
  | _ => false

def isZero : Binary64 → Bool
  | finite _ significand _ => significand == 0
  | _ => false

end Binary64

end PasswordPolicy
