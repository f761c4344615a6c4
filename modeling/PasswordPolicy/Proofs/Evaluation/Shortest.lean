import Mathlib.Algebra.Order.BigOperators.Group.List
import Mathlib.Algebra.Order.Group.Nat
import Mathlib.Order.Bounds.Defs
import PasswordPolicy.Proofs.CharClass.Tally
import PasswordPolicy.Proofs.Evaluation.Strictness

/-!
# The shortest acceptable password

No character counts for two classes, so a password that is accepted is at least as long as all the
limits on classes together, and as long as the limit on length. A text that has just as many
characters of each class as the policy asks for, with padding up to the limit on length, is
accepted, so no more is needed.

* **`violations_eq_nil_iff_demand`**: what a password is asked for without a user or a history.
* **`leastLength_le`**, **`violations_shortest`**: the bound, and a password that attains it.
* **`isLeast_leastLength`**: the length of the shortest acceptable password.
-/

namespace PasswordPolicy

/-! ### Characters of the classes -/

namespace CharClass

/-- A character of the class. -/
def sample : CharClass → Char
  | control => '\n'
  | space => ' '
  | digit => '0'
  | upper => 'A'
  | lower => 'a'
  | special => '!'

set_option maxRecDepth 2000 in
theorem classify_sample (cls : CharClass) : classify cls.sample = cls := by
  cases cls <;> rfl

theorem count_replicate_sample (cls : CharClass) (n : Nat) :
    cls.count (List.replicate n cls.sample) = n := by
  rw [count, List.countP_replicate, classify_sample, if_pos (beq_self_eq_true cls)]

end CharClass

namespace Policy

variable {p : Policy}

/-! ### What a policy asks for -/

/-- How many characters of the class the policy asks for. A limit below zero asks for none. -/
def demand (p : Policy) : CharClass → Nat
  | .upper => p.minUpper.toNat
  | .lower => p.minLower.toNat
  | .digit => p.minDigit.toNat
  | .special => p.minSpecial.toNat
  | .control | .space => 0

/-- The larger of the limit on length and of all the limits on classes together. Limits below zero
count as zero. -/
def leastLength (p : Policy) : Nat :=
  max p.minLength.toNat
    (p.minUpper.toNat + p.minLower.toNat + p.minDigit.toNat + p.minSpecial.toNat)

/-- The least length by all classes, two of which nothing is asked of. -/
theorem leastLength_eq (p : Policy) :
    p.leastLength = max p.minLength.toNat (CharClass.all.map p.demand).sum := by
  have hsum (digit upper lower special : Nat) : upper + lower + digit + special =
      [0, 0, digit, upper, lower, special].sum := by
    simp only [List.sum_cons, List.sum_nil]
    omega
  exact congrArg (max p.minLength.toNat) (hsum _ _ _ _)

/-- A count that is not reported reaches its limit. -/
theorem get_le_of_violations_eq_nil {a : Attempt} {k : Kind} {n : Nat}
    (hnone : p.violations a = []) (hn : a.amount? k = some n) : p.get k ≤ n := by
  by_contra hlt
  have hmem := (mem_violations_iff_breaks (Attempt.family_of_amount? hn)).mpr
    ((Attempt.breaks_iff_of_amount? hn).mpr (Int.not_le.mp hlt))
  rw [hnone] at hmem
  cases hmem

/-- Without a user or a history, a password is accepted if it is long enough and has enough
characters of each class. -/
theorem violations_eq_nil_iff_demand {password : String} :
    p.violations ⟨password, none, none⟩ = [] ↔
      p.minLength.toNat ≤ password.length ∧ ∀ cls, p.demand cls ≤ cls.count password.toList := by
  rw [← String.length_toList]
  constructor
  · intro hnone
    refine ⟨Int.toNat_le.mpr (get_le_of_violations_eq_nil hnone rfl), fun cls => ?_⟩
    cases cls with
    | control => exact Nat.zero_le _
    | space => exact Nat.zero_le _
    | upper => exact Int.toNat_le.mpr (get_le_of_violations_eq_nil hnone rfl)
    | lower => exact Int.toNat_le.mpr (get_le_of_violations_eq_nil hnone rfl)
    | digit => exact Int.toNat_le.mpr (get_le_of_violations_eq_nil hnone rfl)
    | special => exact Int.toNat_le.mpr (get_le_of_violations_eq_nil hnone rfl)
  · rintro ⟨hlength, hclass⟩
    refine violations_eq_nil_iff.mpr fun k _ => Bool.eq_false_iff.mpr fun hbreaks => ?_
    -- a broken limit is larger than the count that it is compared with
    have hcount {n : Nat} (hn : Attempt.amount? ⟨password, none, none⟩ k = some n) :
        ¬ (p.get k).toNat ≤ n := by
      have hlt := (Attempt.breaks_iff_of_amount? hn).mp hbreaks
      omega
    cases k with
    | age => cases hbreaks
    | reuse =>
      obtain ⟨_, hhistory, _⟩ := Attempt.breaks_reuse_iff.mp hbreaks
      cases hhistory
    | user =>
      obtain ⟨_, huser, _⟩ := Attempt.breaks_user_iff.mp hbreaks
      cases huser
    | length => exact hcount rfl hlength
    | uppercase => exact hcount rfl (hclass .upper)
    | lowercase => exact hcount rfl (hclass .lower)
    | digit => exact hcount rfl (hclass .digit)
    | special => exact hcount rfl (hclass .special)

/-! ### The bound -/

/-- **An accepted password is at least that long**: its characters are shared out among the classes,
and each class needs as many as it is asked for. -/
theorem leastLength_le {password : String} (h : p.violations ⟨password, none, none⟩ = []) :
    p.leastLength ≤ password.length := by
  obtain ⟨hlength, hclass⟩ := violations_eq_nil_iff_demand.mp h
  have hsum : (CharClass.all.map p.demand).sum ≤ password.length :=
    calc (CharClass.all.map p.demand).sum
        ≤ (CharClass.all.map fun cls => cls.count password.toList).sum :=
          List.sum_le_sum fun cls _ => hclass cls
      _ = password.toList.length := CharClass.sum_count password.toList
      _ = password.length := String.length_toList
  rw [leastLength_eq]
  exact Nat.max_le.mpr ⟨hlength, hsum⟩

/-- As many samples of each class as the policy asks for, and spaces up to the limit on length. -/
def shortest (p : Policy) : List Char :=
  (CharClass.all.flatMap fun cls => List.replicate (p.demand cls) cls.sample) ++
    List.replicate (p.minLength.toNat - (CharClass.all.map p.demand).sum) CharClass.space.sample

/-- The shortest password is as long as the bound: its padding makes up for what the classes
leave. -/
theorem length_shortest (p : Policy) : p.shortest.length = p.leastLength := by
  have hclasses : (CharClass.all.flatMap fun cls =>
      List.replicate (p.demand cls) cls.sample).length = (CharClass.all.map p.demand).sum := by
    simp only [List.length_flatMap, List.length_replicate]
  rw [shortest, List.length_append, hclasses, List.length_replicate, leastLength_eq]
  omega

/-- **The bound is attained**: the shortest password violates nothing. It has a sample for each
character that a class asks for, and padding up to the length. -/
theorem violations_shortest (p : Policy) :
    p.violations ⟨String.ofList p.shortest, none, none⟩ = [] := by
  rw [violations_eq_nil_iff_demand, String.length_ofList, length_shortest, String.toList_ofList]
  refine ⟨Nat.le_max_left _ _, fun cls => ?_⟩
  have hmem : List.replicate (p.demand cls) cls.sample ∈
      CharClass.all.map fun cls => List.replicate (p.demand cls) cls.sample :=
    List.mem_map.mpr ⟨cls, CharClass.mem_all cls, rfl⟩
  -- the samples of a class stand in a row somewhere in the password
  have hpart : (List.replicate (p.demand cls) cls.sample).Sublist p.shortest :=
    (List.sublist_flatten_of_mem hmem).trans (List.sublist_append_left _ _)
  calc p.demand cls = cls.count (List.replicate (p.demand cls) cls.sample) :=
        (cls.count_replicate_sample _).symm
    _ ≤ cls.count p.shortest := hpart.countP_le

/-- **The length of the shortest acceptable password.** -/
theorem isLeast_leastLength (p : Policy) :
    IsLeast {n | ∃ password : String, p.violations ⟨password, none, none⟩ = [] ∧
      password.length = n} p.leastLength := by
  constructor
  · exact ⟨_, violations_shortest p, by rw [String.length_ofList, length_shortest]⟩
  · rintro _ ⟨password, hnone, rfl⟩
    exact leastLength_le hnone

end Policy

end PasswordPolicy
