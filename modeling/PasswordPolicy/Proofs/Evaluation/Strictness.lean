import PasswordPolicy.Proofs.Evaluation.Breaks

/-!
# Stricter policies

A policy that sets a stricter limit for a kind reports that kind whenever the laxer policy does,
whatever the two say about the other kinds. A limit that is not positive demands nothing, so it
makes no difference that only the value zero switches a constraint off.

* **`Attempt.breaks_mono`**: what breaks a limit breaks every higher one.
* **`mem_violations_mono`**: strictness kind by kind.
-/

namespace PasswordPolicy

namespace Attempt

variable {a : Attempt} {k : Kind} {v w : Int}

/-- Only a positive limit is broken, as neither a count nor a window is ever below zero. -/
theorem pos_of_breaks (hk : k.family = .minimum) (h : a.breaks v k = true) : 0 < v := by
  rcases exists_amount?_or_eq_reuse a hk with ⟨n, hn⟩ | rfl
  · have := (breaks_iff_of_amount? hn).mp h
    omega
  · -- a window without a generation finds nothing
    obtain ⟨history, -, hfound⟩ := breaks_reuse_iff.mp h
    obtain ⟨g, hg, -⟩ := found_scan_iff.mp hfound
    omega

/-- **What breaks a limit breaks every higher one.** What is counted does not depend on the limit,
and a window that is longer finds what a shorter one finds. -/
theorem breaks_mono (hk : k.family = .minimum) (hvw : v ≤ w) (h : a.breaks v k = true) :
    a.breaks w k = true := by
  rcases exists_amount?_or_eq_reuse a hk with ⟨n, hn⟩ | rfl
  · rw [breaks_iff_of_amount? hn] at h ⊢
    omega
  · obtain ⟨history, hhistory, hfound⟩ := breaks_reuse_iff.mp h
    exact breaks_reuse_iff.mpr ⟨history, hhistory, found_scan_mono (Int.toNat_le_toNat hvw) hfound⟩

end Attempt

namespace Policy

variable {p q : Policy} {a : Attempt} {k : Kind}

/-- A constraint with a least value is reported where its limit is broken: a broken limit is
positive, so it is not the one that switches the constraint off. -/
theorem mem_violations_iff_breaks (hk : k.family = .minimum) :
    k ∈ p.violations a ↔ a.breaks (p.get k) k = true := by
  rw [mem_violations]
  refine and_iff_right_of_imp fun hbreaks => ?_
  have hpos := Attempt.pos_of_breaks hk hbreaks
  have hdefault : k.default = 0 := by rw [Kind.default, hk]; rfl
  exact (Kind.enabled_some k _).mpr (by omega)

/-- A kind with a least value that is reported is also reported under a limit that is as high. -/
theorem mem_violations_of_get_le (hk : k.family = .minimum) (hle : p.get k ≤ q.get k)
    (h : k ∈ p.violations a) : k ∈ q.violations a := by
  rw [mem_violations_iff_breaks hk] at h ⊢
  -- whether the constraint is switched on is part of the limit being positive
  exact Attempt.breaks_mono hk hle h

/-- The user name is reported by every policy that forbids it, whatever value says so. -/
theorem user_mem_violations_of_imp (himp : p.get .user ≠ 0 → q.get .user ≠ 0)
    (h : Kind.user ∈ p.violations a) : Kind.user ∈ q.violations a := by
  obtain ⟨hon, hbreaks⟩ := mem_violations.mp h
  have hq : q.enabled .user = true :=
    (Kind.enabled_some .user _).mpr (himp ((Kind.enabled_some .user _).mp hon))
  exact mem_violations.mpr ⟨hq, Attempt.breaks_user_iff.mpr (Attempt.breaks_user_iff.mp hbreaks)⟩

/-- **Strictness kind by kind.** Where the second policy has a limit that is as high, or forbids the
user name if the first does, it reports the kind if the first does. Neither reports expiry. -/
theorem mem_violations_mono (p q : Policy) (a : Attempt) :
    (∀ k, k.family = .minimum → p.get k ≤ q.get k → k ∈ p.violations a → k ∈ q.violations a) ∧
      ((p.get .user ≠ 0 → q.get .user ≠ 0) →
        Kind.user ∈ p.violations a → Kind.user ∈ q.violations a) ∧
      Kind.age ∉ p.violations a ∧ Kind.age ∉ q.violations a :=
  ⟨fun _ => mem_violations_of_get_le, user_mem_violations_of_imp,
    age_notMem_violations p a, age_notMem_violations q a⟩

/-- A longer window and another way of forbidding the user name. -/
theorem mem_violations_mono_of_longer_window :
    ((Policy.empty.set .reuse 1).set .user 1).get .reuse ≤
        ((Policy.empty.set .reuse 3).set .user (-5)).get .reuse ∧
      (((Policy.empty.set .reuse 1).set .user 1).get .user ≠ 0 →
        ((Policy.empty.set .reuse 3).set .user (-5)).get .user ≠ 0) ∧
      ((Policy.empty.set .reuse 1).set .user 1).violations
        ⟨"Anna7", some "ANNA", some (History.ofList ["Anna7"])⟩ = [.reuse, .user] ∧
      Kind.reuse ∈ ((Policy.empty.set .reuse 3).set .user (-5)).violations
        ⟨"Anna7", some "ANNA", some (History.ofList ["Anna7"])⟩ ∧
      Kind.user ∈ ((Policy.empty.set .reuse 3).set .user (-5)).violations
        ⟨"Anna7", some "ANNA", some (History.ofList ["Anna7"])⟩ := by
  have hle : ((Policy.empty.set .reuse 1).set .user 1).get .reuse ≤
      ((Policy.empty.set .reuse 3).set .user (-5)).get .reuse := by decide
  have huser : ((Policy.empty.set .reuse 1).set .user 1).get .user ≠ 0 →
      ((Policy.empty.set .reuse 3).set .user (-5)).get .user ≠ 0 := by decide
  have hboth : ((Policy.empty.set .reuse 1).set .user 1).violations
      ⟨"Anna7", some "ANNA", some (History.ofList ["Anna7"])⟩ = [.reuse, .user] := by
    decide +kernel
  obtain ⟨hminimum, hprohibit, -, -⟩ := mem_violations_mono
    ((Policy.empty.set .reuse 1).set .user 1) ((Policy.empty.set .reuse 3).set .user (-5))
    ⟨"Anna7", some "ANNA", some (History.ofList ["Anna7"])⟩
  exact ⟨hle, huser, hboth, hminimum .reuse rfl hle (by rw [hboth]; decide),
    hprohibit huser (by rw [hboth]; decide)⟩

end Policy

end PasswordPolicy
