import PasswordPolicy.Number.Binary64

/-!
# Shortest decimal text

The text of a floating-point number has the fewest digits that read back as the number, and of
those digits the ones nearest to it. A number rounds to `m · 2 ^ q` if it lies between the midpoints
to the neighbours of that number, midpoints included if `m` is even. For 1, 2, … 17 digits the two
points of the decimal grid next to the number are tried, and the first grid with a hit wins.
-/

namespace PasswordPolicy.Binary64

/-- A decimal significand and exponent. -/
structure Digits where
  digits : Nat
  power : Int
deriving DecidableEq, Repr

/-- A positive number as `num / den`, together with the bounds of the numbers that round to it, all
over the same denominator. -/
structure Neighbourhood where
  low : Nat
  value : Nat
  high : Nat
  den : Nat
  closed : Bool

/-- The numbers that round to `significand · 2 ^ exponent`. Below a power of two the next number is
at half the distance. -/
def neighbourhood (significand : Nat) (exponent : Int) : Neighbourhood :=
  let scale := if 0 ≤ exponent then Nat.pow 2 exponent.toNat else 1
  let den := if 0 ≤ exponent then 4 else 4 * Nat.pow 2 (-exponent).toNat
  let below := if significand = Nat.pow 2 52 ∧ -1074 < exponent then 1 else 2
  ⟨(4 * significand - below) * scale, 4 * significand * scale, (4 * significand + 2) * scale, den,
    significand % 2 == 0⟩

/-- Does `digits · 10 ^ power` round to the number? -/
def Neighbourhood.holds (n : Neighbourhood) (d : Digits) : Bool :=
  let point := if 0 ≤ d.power then d.digits * Nat.pow 10 d.power.toNat * n.den else d.digits * n.den
  let unit := if 0 ≤ d.power then 1 else Nat.pow 10 (-d.power).toNat
  if n.closed then n.low * unit ≤ point && point ≤ n.high * unit
  else n.low * unit < point && point < n.high * unit

/-- The point of the grid with unit `10 ^ power` that is next to the number and rounds to it, of two
such points the nearer one. -/
def Neighbourhood.onGrid (n : Neighbourhood) (power : Int) : Option Digits :=
  let num := if 0 ≤ power then n.value else n.value * Nat.pow 10 (-power).toNat
  let den := if 0 ≤ power then n.den * Nat.pow 10 power.toNat else n.den
  let nearest := divNearest num den
  let floor := num / den
  let other := if nearest = floor then floor + 1 else floor
  if n.holds ⟨nearest, power⟩ then some ⟨nearest, power⟩
  else if n.holds ⟨other, power⟩ then some ⟨other, power⟩
  else none

/-- The least power of ten above `num / den`, as an exponent, starting the search at `guess`. -/
def decimalMagnitude (num den : Nat) : (fuel : Nat) → (guess : Int) → Int
  | 0, guess => guess
  | fuel + 1, guess =>
    let reached :=
      if 0 ≤ guess then den * Nat.pow 10 guess.toNat ≤ num
      else den ≤ num * Nat.pow 10 (-guess).toNat
    if reached then decimalMagnitude num den fuel (guess + 1) else guess

/-- The shortest digits of `significand · 2 ^ exponent`, for a positive significand, without zeros
at the end. -/
def shortestDigits (significand : Nat) (exponent : Int) : Digits :=
  let n := neighbourhood significand exponent
  let guess : Int := ((Nat.log2 n.value : Int) - Nat.log2 n.den - 1) * 30103 / 100000 - 1
  let magnitude := decimalMagnitude n.value n.den 4 guess
  ((List.range' 1 17).findSome? fun (count : Nat) => n.onGrid (magnitude - count)).getD ⟨0, 0⟩

/-- A text of digits without the zeros at its end, the first one apart. -/
def trimZeros (digits : List Char) : List Char :=
  match (digits.reverse.dropWhile (· == '0')).reverse with
  | [] => ['0']
  | kept => kept

/-- Writes digits and the place of the decimal point after the first digit: positionally for points
from three places before the first digit to sixteen behind it, with an exponent of at least two
digits otherwise. A whole number written positionally ends in `.0`. -/
def placed (digits : List Char) (point : Int) : List Char :=
  if -4 < point ∧ point ≤ 16 then
    if point ≤ 0 then '0' :: '.' :: (List.replicate (-point).toNat '0' ++ digits)
    else
      let whole := digits.take point.toNat
      let fraction := digits.drop point.toNat
      whole ++ List.replicate (point.toNat - digits.length) '0' ++
        '.' :: (if fraction.isEmpty then ['0'] else fraction)
  else
    let exponent := point - 1
    let size := Nat.toDigits 10 exponent.natAbs
    let mantissa := match digits with
      | [] => []
      | [d] => [d]
      | d :: rest => d :: '.' :: rest
    mantissa ++ 'e' :: (if exponent < 0 then '-' else '+') ::
      (if size.length < 2 then '0' :: size else size)

def text : Binary64 → String
  | nan => "nan"
  | infinite negative => if negative then "-inf" else "inf"
  | finite negative significand exponent =>
    let body :=
      if significand = 0 then ['0', '.', '0']
      else
        let shortest := shortestDigits significand exponent
        let digits := Nat.toDigits 10 shortest.digits
        placed (trimZeros digits) (shortest.power + digits.length)
    String.ofList (if negative then '-' :: body else body)

end PasswordPolicy.Binary64
