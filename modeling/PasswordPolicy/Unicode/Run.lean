/-!
# Runs of code points

Character properties are given as lists of runs: every code point, or every second one, between a
first and a last code point. Alternating runs are common because many alphabets list each upper
case letter right before its lower case form.
-/

namespace PasswordPolicy.Unicode

/-- The code points `first`, `first + step`, … up to `last`. -/
structure Run where
  first : Nat
  last : Nat
  step : Nat
deriving Repr, DecidableEq

/-- Is the code point `c` in the run? -/
def Run.contains (r : Run) (c : Nat) : Bool :=
  r.first ≤ c && c ≤ r.last && (c - r.first) % r.step == 0

def inRuns (runs : List Run) (c : Char) : Bool := runs.any (·.contains c.toNat)

/-- A run of letters together with the image of its first letter; the other letters of the run are
mapped at the same distance. -/
structure CaseRun where
  first : Nat
  last : Nat
  step : Nat
  target : Nat
deriving Repr, DecidableEq

def CaseRun.letters (r : CaseRun) : Run := ⟨r.first, r.last, r.step⟩

/-- The image of the code point `c` of the run. -/
def CaseRun.image (r : CaseRun) (c : Nat) : Nat := r.target + (c - r.first)

end PasswordPolicy.Unicode
