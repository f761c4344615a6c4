import PasswordPolicy.Age
import PasswordPolicy.Proofs.Evaluation.Acceptable
import PasswordPolicy.Proofs.Evaluation.Multiplicity
import PasswordPolicy.Proofs.Evaluation.Reuse
import PasswordPolicy.Proofs.Evaluation.Strictness

/-!
# What the named properties tell

The properties of a policy that name a demand are computed from the stored values alone. They hold
exactly if the evaluation reports the demand for some password: a limit that is not positive, below
zero or not, is never reported. The one exception is the property for the case of letters, which
adds two limits up, so that a limit below zero can take the other one away.

* **`exists_mem_violations_iff_pos`**, **`exists_reuse_mem_violations_iff`**,
  **`exists_user_mem_violations_iff`**: which kinds are reported for some password.
* **`requireMixedCase_iff`**: the property for the case of letters.
* **`named_properties_iff_reported`**: all of them in one place.
-/

namespace PasswordPolicy.Policy

variable {p : Policy} {k : Kind}

/-! ### Kinds that are reported for some password -/

/-- The empty password breaks every limit that some password breaks, and only a positive limit is
broken at all. -/
theorem exists_mem_violations_iff_pos (hk : k ∈ Kind.counting) (user : Option String)
    (history : Option History) :
    (∃ password, k ∈ p.violations ⟨password, user, history⟩) ↔ 0 < p.get k := by
  -- the empty password has nothing that could be counted
  have hnone : Attempt.amount? ⟨"", user, history⟩ k = some 0 := by
    revert k
    simp [Kind.counting, Attempt.amount?, Attempt.chars]
  have hminimum : k.family = .minimum := Attempt.family_of_amount? hnone
  constructor
  · rintro ⟨password, hmem⟩
    exact Attempt.pos_of_breaks hminimum (mem_violations.mp hmem).2
  · intro hpos
    exact ⟨"", (mem_violations_iff_breaks hminimum).mpr
      ((Attempt.breaks_iff_of_amount? hnone).mpr hpos)⟩

/-- Reuse is reported for some password and history exactly if the window has room for a
generation. -/
theorem exists_reuse_mem_violations_iff (user : Option String) :
    (∃ password history, Kind.reuse ∈ p.violations ⟨password, user, some history⟩) ↔
      0 < p.get .reuse := by
  constructor
  · rintro ⟨password, history, hmem⟩
    exact Attempt.pos_of_breaks rfl (mem_violations.mp hmem).2
  · intro hpos
    -- the current password is found in every window that is not empty
    have hmem : "" ∈ [""].take (p.get .reuse).toNat := by
      rw [List.take_of_length_le (Int.lt_toNat.mpr hpos)]
      exact List.mem_singleton_self _
    exact ⟨"", History.ofList [""], reuse_mem_violations_iff.mpr (found_scan_ofList_iff.mpr hmem)⟩

/-- The user name is reported for some password and user exactly if it is forbidden: the empty name
is in every password. -/
theorem exists_user_mem_violations_iff (history : Option History) :
    (∃ password user, Kind.user ∈ p.violations ⟨password, some user, history⟩) ↔
      p.noUser = true := by
  constructor
  · rintro ⟨password, user, hmem⟩
    exact (mem_violations.mp hmem).1
  · intro hon
    exact ⟨"", "", user_mem_violations_of_empty hon "" history⟩

/-! ### The case of letters -/

/-- One of the limits on letters is positive, and the other one is at least as far below zero. -/
def LettersCancel (p : Policy) : Prop :=
  0 < p.minUpper ∧ p.minUpper ≤ -p.minLower ∨ 0 < p.minLower ∧ p.minLower ≤ -p.minUpper

instance : DecidablePred LettersCancel := fun p =>
  inferInstanceAs (Decidable (0 < p.minUpper ∧ p.minUpper ≤ -p.minLower ∨
    0 < p.minLower ∧ p.minLower ≤ -p.minUpper))

/-- **The property for the case of letters** holds if a limit on letters is reported for some
password, unless the two limits cancel. -/
theorem requireMixedCase_iff (user : Option String) (history : Option History) :
    p.requireMixedCase = true ↔
      (∃ password, Kind.uppercase ∈ p.violations ⟨password, user, history⟩ ∨
        Kind.lowercase ∈ p.violations ⟨password, user, history⟩) ∧ ¬ p.LettersCancel := by
  rw [exists_or, exists_mem_violations_iff_pos (by decide),
    exists_mem_violations_iff_pos (by decide), requireMixedCase, decide_eq_true_iff, LettersCancel]
  show p.minUpper + p.minLower > 0 ↔ (0 < p.minUpper ∨ 0 < p.minLower) ∧ _
  omega

/-! ### All properties -/

/-- **What the named properties tell.** Whatever user and history are given: digits and specials are
required exactly if their limit is reported for some password, repeats are prevented exactly if
reuse is reported for some password and history, and the user is restricted exactly if the name is
reported for some password and user. Upper or lower case is required exactly if one of their limits
is reported for some password and the two do not cancel. Where passwords do not expire, none is ever
too old. -/
theorem named_properties_iff_reported (p : Policy) (user : Option String)
    (history : Option History) :
    (p.requireMixedCase = true ↔
        (∃ password, Kind.uppercase ∈ p.violations ⟨password, user, history⟩ ∨
          Kind.lowercase ∈ p.violations ⟨password, user, history⟩) ∧ ¬ p.LettersCancel) ∧
      (p.requireDigits = true ↔
        ∃ password, Kind.digit ∈ p.violations ⟨password, user, history⟩) ∧
      (p.requireSpecial = true ↔
        ∃ password, Kind.special ∈ p.violations ⟨password, user, history⟩) ∧
      (p.preventRepeats = true ↔
        ∃ password earlier, Kind.reuse ∈ p.violations ⟨password, user, some earlier⟩) ∧
      p.restrictUser = p.noUser ∧
      (p.restrictUser = true ↔
        ∃ password name, Kind.user ∈ p.violations ⟨password, some name, history⟩) ∧
      (p.expirePasswords = false → ∀ lastChanged now, p.tooOld lastChanged now = .ok false) := by
  refine ⟨requireMixedCase_iff user history, ?_, ?_, ?_, rfl, ?_, fun hnever lastChanged now => ?_⟩
  · exact decide_eq_true_iff.trans (exists_mem_violations_iff_pos (by decide) user history).symm
  · exact decide_eq_true_iff.trans (exists_mem_violations_iff_pos (by decide) user history).symm
  · exact decide_eq_true_iff.trans (exists_reuse_mem_violations_iff user).symm
  · exact (exists_user_mem_violations_iff history).symm
  · exact tooOld_of_maxAge_le (Int.not_lt.mp (of_decide_eq_false hnever)) lastChanged now

/-- A limit on age that is switched on but zero, and limits on letters that do not cancel although
one is below zero. -/
theorem named_properties_iff_reported_of_zero_age :
    (((Policy.empty.set .uppercase 3).set .lowercase (-2)).set .age 0).enabled .age = true ∧
      (((Policy.empty.set .uppercase 3).set .lowercase (-2)).set .age 0).expirePasswords = false ∧
      (((Policy.empty.set .uppercase 3).set .lowercase (-2)).set .age 0).tooOld (.naive 0)
        (.moment (.naive 63852840000000000)) = .ok false ∧
      ¬ (((Policy.empty.set .uppercase 3).set .lowercase (-2)).set .age 0).LettersCancel ∧
      (((Policy.empty.set .uppercase 3).set .lowercase (-2)).set .age 0).requireMixedCase = true ∧
      ∃ password,
        Kind.uppercase ∈
          (((Policy.empty.set .uppercase 3).set .lowercase (-2)).set .age 0).violations
            ⟨password, none, none⟩ ∨
        Kind.lowercase ∈
          (((Policy.empty.set .uppercase 3).set .lowercase (-2)).set .age 0).violations
            ⟨password, none, none⟩ := by
  obtain ⟨hmixed, -, -, -, -, -, hexpire⟩ := named_properties_iff_reported
    (((Policy.empty.set .uppercase 3).set .lowercase (-2)).set .age 0) none none
  exact ⟨by decide, by decide, hexpire (by decide) _ _, by decide, by decide,
    (hmixed.mp (by decide)).1⟩

/-- A limit below zero for small letters takes the one for capital letters away: no letters are said
to be required, but a password without a capital letter is reported. -/
theorem opposite_limits_untold :
    Kind.uppercase ∈ ((Policy.empty.set .uppercase 1).set .lowercase (-1)).violations
        ⟨"a", none, none⟩ ∧
      ((Policy.empty.set .uppercase 1).set .lowercase (-1)).requireMixedCase = false := by
  decide +kernel

end PasswordPolicy.Policy
