/-!
# Rounding to the nearest whole number

The quotient of two natural numbers rounded to the nearest whole number, a tie to the even one. Main
statement: the result is at most half a unit away from the quotient.
-/

namespace PasswordPolicy

/-- The quotient rounded to the nearest whole number, a tie to the even one. -/
def divNearest (num den : Nat) : Nat :=
  let quotient := num / den
  let twice := 2 * (num % den)
  if twice < den ∨ (twice = den ∧ quotient % 2 = 0) then quotient else quotient + 1

/-- The rounded quotient is at most half a unit above the quotient. -/
theorem two_mul_divNearest_mul_le {num den : Nat} (h : 0 < den) :
    2 * (divNearest num den * den) ≤ 2 * num + den := by
  have hdiv := Nat.div_add_mod num den
  have hcomm : den * (num / den) = num / den * den := Nat.mul_comm _ _
  unfold divNearest
  simp only
  split
  · omega
  · rw [Nat.add_mul, Nat.one_mul]; omega

/-- The rounded quotient is at most half a unit below the quotient. -/
theorem two_mul_le_divNearest_mul {num den : Nat} (h : 0 < den) :
    2 * num ≤ 2 * (divNearest num den * den) + den := by
  have hdiv := Nat.div_add_mod num den
  have hmod := Nat.mod_lt num h
  have hcomm : den * (num / den) = num / den * den := Nat.mul_comm _ _
  unfold divNearest
  simp only
  split
  · omega
  · rw [Nat.add_mul, Nat.one_mul]; omega

end PasswordPolicy
