import Mathlib.Data.List.Perm.Subperm
import PasswordPolicy.Proofs.Evaluation.Breaks

/-!
# More characters, fewer violations

Five kinds of constraints count characters. Nothing but how often each character occurs matters to
them: characters that are added to a password anywhere never break one of these constraints, and
characters that change places make no difference. The user and the history have no part in it.

* **`Attempt.amount?_le_of_subperm`**: a password that has every character as often counts as much.
* **`counted_violations_of_count_le`**: what this means for the violations.
-/

namespace PasswordPolicy

variable {a b : Attempt} {k : Kind} {limit : Int}

/-- The kinds of constraints that count characters. -/
def Kind.counting : List Kind := [.length, .uppercase, .lowercase, .digit, .special]

theorem CharClass.count_le_of_subperm {text more : List Char} (h : text.Subperm more)
    (cls : CharClass) : cls.count text ≤ cls.count more :=
  h.countP_le _

namespace Attempt

/-- The kinds that count characters are those with an amount. -/
theorem exists_amount?_iff (a : Attempt) : (∃ n, a.amount? k = some n) ↔ k ∈ Kind.counting := by
  cases k with
  | age => exact iff_of_false nofun (by decide)
  | reuse => exact iff_of_false nofun (by decide)
  | user => exact iff_of_false nofun (by decide)
  | _ => exact iff_of_true ⟨_, rfl⟩ (by decide)

/-- **A password that has every character as often counts as much**, whatever is counted. The length
counts all characters and the other limits those of one class. -/
theorem amount?_le_of_subperm (h : a.chars.Subperm b.chars) {m n : Nat}
    (hm : a.amount? k = some m) (hn : b.amount? k = some n) : m ≤ n := by
  cases k with
  | age => cases hm
  | reuse => cases hm
  | user => cases hm
  | length =>
    cases hm
    cases hn
    exact h.length_le
  | _ =>
    -- the other four count the characters of a class
    cases hm
    cases hn
    exact CharClass.count_le_of_subperm h _

/-- A limit that is broken by a password with more characters is broken by one with fewer. -/
theorem breaks_of_subperm (h : a.chars.Subperm b.chars) (hk : k ∈ Kind.counting)
    (hbreaks : b.breaks limit k = true) : a.breaks limit k = true := by
  obtain ⟨m, hm⟩ := a.exists_amount?_iff.mpr hk
  obtain ⟨n, hn⟩ := b.exists_amount?_iff.mpr hk
  have hle : m ≤ n := amount?_le_of_subperm h hm hn
  rw [breaks_iff_of_amount? hn] at hbreaks
  rw [breaks_iff_of_amount? hm]
  omega

end Attempt

namespace Policy

variable {p : Policy}

/-- So is what the one violates violated by the other. -/
theorem mem_violations_of_subperm (h : a.chars.Subperm b.chars) (hk : k ∈ Kind.counting)
    (hmem : k ∈ p.violations b) : k ∈ p.violations a := by
  obtain ⟨hon, hbreaks⟩ := mem_violations.mp hmem
  exact mem_violations.mpr ⟨hon, Attempt.breaks_of_subperm h hk hbreaks⟩

/-- The violations among some kinds are told by which of these kinds are violated. They are listed
in the order of the kinds, which does not depend on the password. -/
theorem filter_violations_congr {kinds : List Kind}
    (h : ∀ k ∈ kinds, (k ∈ p.violations a ↔ k ∈ p.violations b)) :
    (p.violations a).filter (· ∈ kinds) = (p.violations b).filter (· ∈ kinds) := by
  have hmem (c : Attempt) (k : Kind) : p.violatedBy c k = decide (k ∈ p.violations c) := by
    simp only [violations, List.mem_filter, Kind.mem_all, true_and, Bool.decide_eq_true]
  unfold violations
  rw [List.filter_filter, List.filter_filter]
  refine List.filter_congr fun k _ => ?_
  by_cases hk : k ∈ kinds
  · rw [hmem, hmem, decide_eq_decide.mpr (h k hk)]
  · rw [decide_eq_false hk, Bool.false_and, Bool.false_and]

/-- **More characters, fewer violations.** If every character occurs in the second password at least
as often as in the first, the second violates no constraint on the number of characters that the
first does not violate. If one password is a rearrangement of the other, both violate the same of
these constraints. This is so whatever users and histories the two are checked against. -/
theorem counted_violations_of_count_le (p : Policy) (a b : Attempt) :
    ((∀ c, a.chars.count c ≤ b.chars.count c) →
        ∀ k ∈ Kind.counting, k ∈ p.violations b → k ∈ p.violations a) ∧
      (a.chars.Perm b.chars →
        (p.violations a).filter (· ∈ Kind.counting) =
          (p.violations b).filter (· ∈ Kind.counting)) := by
  constructor
  · intro hcount k hk
    exact mem_violations_of_subperm (List.subperm_ext_iff.mpr fun c _ => hcount c) hk
  · intro hperm
    exact filter_violations_congr fun k hk => ⟨mem_violations_of_subperm hperm.symm.subperm hk,
      mem_violations_of_subperm hperm.subperm hk⟩

/-- A letter put into the middle mends the length but not the digits, and a rearrangement neither,
whatever else is wrong with the passwords. -/
theorem counted_violations_of_count_le_of_insertion :
    (∀ c, (Attempt.mk "b1A" (some "B1") none).chars.count c ≤
        (Attempt.mk "b\u00e91A" none (some (History.ofList ["b\u00e91A"]))).chars.count c) ∧
      (((Policy.empty.set .length 4).set .digit 2).set .reuse 1).violations
        ⟨"b\u00e91A", none, some (History.ofList ["b\u00e91A"])⟩ = [.digit, .reuse] ∧
      Kind.digit ∈ (((Policy.empty.set .length 4).set .digit 2).set .reuse 1).violations
        ⟨"b1A", some "B1", none⟩ ∧
      (Attempt.mk "b1A" (some "B1") none).chars.Perm (Attempt.mk "Ab1" none none).chars ∧
      ((((Policy.empty.set .length 4).set .digit 2).set .reuse 1).violations
          ⟨"b1A", some "B1", none⟩).filter (· ∈ Kind.counting) =
        ((((Policy.empty.set .length 4).set .digit 2).set .reuse 1).violations
          ⟨"Ab1", none, none⟩).filter (· ∈ Kind.counting) := by
  have hsub : (Attempt.mk "b1A" (some "B1") none).chars.Subperm
      (Attempt.mk "b\u00e91A" none (some (History.ofList ["b\u00e91A"]))).chars := by decide
  have hperm : (Attempt.mk "b1A" (some "B1") none).chars.Perm
      (Attempt.mk "Ab1" none none).chars := by decide
  have hviolations : (((Policy.empty.set .length 4).set .digit 2).set .reuse 1).violations
      ⟨"b\u00e91A", none, some (History.ofList ["b\u00e91A"])⟩ = [.digit, .reuse] := by
    decide +kernel
  refine ⟨hsub.count_le, hviolations, ?_, hperm, ?_⟩
  · exact (counted_violations_of_count_le _ _ _).1 hsub.count_le .digit (by decide)
      (by rw [hviolations]; decide)
  · exact (counted_violations_of_count_le _ _ _).2 hperm

end Policy

end PasswordPolicy
