import PasswordPolicy.Evaluation
import PasswordPolicy.Proofs.History.Scan

/-!
# What breaks a constraint

When an attempt breaks a constraint with a given limit, kind by kind. Five kinds count something and
compare it with the limit, one scans the history, one looks for the user name, and expiry is no
matter of the attempt.

* **`Attempt.breaks_iff_of_amount?`**: the kinds that count.
* **`Attempt.breaks_reuse_iff`**, **`Attempt.breaks_user_iff`**: the other two.
-/

namespace PasswordPolicy

namespace Attempt

/-- What a constraint of the kind counts in the password, if it counts anything. -/
def amount? (a : Attempt) : Kind → Option Nat
  | .length => some a.chars.length
  | .uppercase => some (CharClass.upper.count a.chars)
  | .lowercase => some (CharClass.lower.count a.chars)
  | .digit => some (CharClass.digit.count a.chars)
  | .special => some (CharClass.special.count a.chars)
  | .age | .reuse | .user => none

variable {a : Attempt} {k : Kind} {limit : Int}

/-- A constraint that counts something is broken exactly if there is less of it than the limit. -/
theorem breaks_iff_of_amount? {n : Nat} (h : a.amount? k = some n) :
    a.breaks limit k = true ↔ (n : Int) < limit := by
  cases k with
  | age => cases h
  | reuse => cases h
  | user => cases h
  | _ =>
    -- the five that count all make the same comparison
    cases h
    exact decide_eq_true_iff

/-- Whatever is counted has a least value. -/
theorem family_of_amount? {n : Nat} (h : a.amount? k = some n) : k.family = .minimum := by
  cases k with
  | age => cases h
  | user => cases h
  | _ => rfl

/-- The other constraint with a least value looks into the history. -/
theorem exists_amount?_or_eq_reuse (a : Attempt) (hk : k.family = .minimum) :
    (∃ n, a.amount? k = some n) ∨ k = .reuse := by
  cases k with
  | age => cases hk
  | user => cases hk
  | reuse => exact .inr rfl
  | _ => exact .inl ⟨_, rfl⟩

/-- The constraint on reuse is broken exactly if there is a history and a scan of so many
generations finds the password. A limit below zero asks for none. -/
theorem breaks_reuse_iff : a.breaks limit .reuse = true ↔
    ∃ history, a.history = some history ∧
      (scan (history a.password) limit.toNat).found = true := by
  unfold breaks reuse
  cases a.history with
  | none => exact iff_of_false nofun fun ⟨_, hhistory, _⟩ => nomatch hhistory
  | some history => simp only [Option.some.injEq, exists_eq_left']

/-- The limit on the user name is broken, whatever it is, where the lower-case forms of the name and
of the password say so. -/
theorem breaks_user_iff : a.breaks limit .user = true ↔
    ∃ user, a.user = some user ∧
      Unicode.lowerCase user.toList <:+: Unicode.lowerCase a.chars := by
  unfold breaks containsUser
  cases a.user with
  | none => exact iff_of_false nofun fun ⟨_, huser, _⟩ => nomatch huser
  | some user => simp only [Text.occursIn_iff, Option.some.injEq, exists_eq_left']

end Attempt

theorem Policy.violations_eq_nil_iff {p : Policy} {a : Attempt} :
    p.violations a = [] ↔ ∀ k, p.enabled k = true → a.breaks (p.get k) k = false := by
  simp [violations, violatedBy]

end PasswordPolicy
