import PasswordPolicy.CharClass
import PasswordPolicy.History
import PasswordPolicy.Policy
import PasswordPolicy.Text.Occurs
import PasswordPolicy.Unicode.LetterCase

/-!
# Evaluation

Evaluating a password against a policy gives the kinds of constraints that it violates, and records
which generations of the history were asked for. Only constraints that are switched on are checked.
A constraint on the user name is not checked if no user is given, and one on earlier passwords not
if no history is given. Expiry is never checked here.
-/

namespace PasswordPolicy

/-- A password to be checked, with the user and the history it is checked against. -/
structure Attempt where
  password : String
  user : Option String
  history : Option History

namespace Attempt

def chars (a : Attempt) : List Char := a.password.toList

/-- Does the user name occur in the password, whatever the case of both? -/
def containsUser (a : Attempt) : Bool :=
  match a.user with
  | none => false
  | some user => Text.occursIn (Unicode.lowerCase user.toList) (Unicode.lowerCase a.chars)

/-- The scan of the history for the password, over so many generations. -/
def reuse (a : Attempt) (generations : Int) : Scan :=
  match a.history with
  | none => ⟨[], false⟩
  | some history => scan (history a.password) generations.toNat

/-- Does the password break a constraint of the kind with the given limit? -/
def breaks (a : Attempt) (limit : Int) : Kind → Bool
  | .length => a.chars.length < limit
  | .uppercase => CharClass.upper.count a.chars < limit
  | .lowercase => CharClass.lower.count a.chars < limit
  | .digit => CharClass.digit.count a.chars < limit
  | .special => CharClass.special.count a.chars < limit
  | .age => false
  | .reuse => (a.reuse limit).found
  | .user => a.containsUser

end Attempt

namespace Policy

/-- Does the attempt violate the constraint of the kind? -/
def violatedBy (p : Policy) (a : Attempt) (k : Kind) : Bool := p.enabled k && a.breaks (p.get k) k

/-- The kinds of constraints that the attempt violates, in order. -/
def violations (p : Policy) (a : Attempt) : List Kind := Kind.all.filter (p.violatedBy a)

/-- The generations that are asked for while the attempt is evaluated. -/
def asked (p : Policy) (a : Attempt) : List Nat :=
  if p.enabled .reuse then (a.reuse (p.get .reuse)).asked else []

theorem mem_violations {p : Policy} {a : Attempt} {k : Kind} :
    k ∈ p.violations a ↔ p.enabled k = true ∧ a.breaks (p.get k) k = true := by
  simp [violations, violatedBy]

/-- The violations are in the order of the kinds. -/
theorem violations_sublist (p : Policy) (a : Attempt) : (p.violations a).Sublist Kind.all :=
  List.filter_sublist

/-- Expiry is never among the violations. -/
theorem age_notMem_violations (p : Policy) (a : Attempt) : Kind.age ∉ p.violations a := by
  simp [mem_violations, Attempt.breaks]

end Policy

end PasswordPolicy
