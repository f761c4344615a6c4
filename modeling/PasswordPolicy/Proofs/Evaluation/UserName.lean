import PasswordPolicy.Proofs.Evaluation.Breaks
import PasswordPolicy.Proofs.Text.LetterCase
import PasswordPolicy.Proofs.Unicode.Context

/-!
# User names in passwords

The name and the password are lowered apart from each other. A name that is a stretch of the
password is found if its sigmas have the same forms in both, and for a name without an open sigma
this is so in every password. A name with an open sigma escapes in some passwords that hold it. The
case of ASCII letters in the name and in the password never matters.

* **`user_mem_violations_iff`**: when the user name is reported.
* **`forall_user_mem_violations_iff`**: the names that are reported wherever they occur.
* **`user_mem_violations_iff_of_sameLetters`**: names and passwords that differ in case only.
-/

namespace PasswordPolicy.Policy

variable {p : Policy}

/-- Where it is forbidden, the user name is reported exactly if its lower-case form occurs in that
of the password. -/
theorem user_mem_violations_iff (hon : p.enabled .user = true) {password user : String}
    {history : Option History} : Kind.user ∈ p.violations ⟨password, some user, history⟩ ↔
      Unicode.lowerCase user.toList <:+: Unicode.lowerCase password.toList := by
  rw [mem_violations, Attempt.breaks_user_iff]
  constructor
  · rintro ⟨-, _, ⟨⟩, hoccurs⟩
    exact hoccurs
  · intro hoccurs
    exact ⟨hon, user, rfl, hoccurs⟩

/-- **The names that are reported wherever they occur.** A name is reported in a password that holds
it in a place where the capital sigmas of the name keep the forms that they have in the name alone.
It is reported in every password that holds it exactly if it has no open sigma. -/
theorem forall_user_mem_violations_iff (hon : p.enabled .user = true) (user : String) :
    (∀ (front back : String) (history : Option History),
      Unicode.KeepsSigmas front.toList user.toList back.toList →
        Kind.user ∈ p.violations ⟨front ++ user ++ back, some user, history⟩) ∧
      ((∀ (front back : String) (history : Option History),
          Kind.user ∈ p.violations ⟨front ++ user ++ back, some user, history⟩) ↔
        ¬ Unicode.HasOpenSigma user.toList) := by
  refine ⟨fun front back history hkeeps => ?_, ?_⟩
  · rw [user_mem_violations_iff hon, String.toList_append, String.toList_append]
    exact hkeeps.infix_lowerCase
  · -- evaluations differ from texts only in that the password is a string
    rw [← Unicode.forall_infix_lowerCase_iff]
    constructor
    · intro hall front back
      have hmem := hall (String.ofList front) (String.ofList back) none
      rw [user_mem_violations_iff hon] at hmem
      simpa only [String.toList_append, String.toList_ofList] using hmem
    · intro hall front back history
      rw [user_mem_violations_iff hon, String.toList_append, String.toList_append]
      exact hall front.toList back.toList

/-- Behind a digit a sigma stays as it is alone, and in front of a letter it always does. -/
theorem forall_user_mem_violations_iff_of_sigma :
    (Policy.empty.set .user 1).enabled .user = true ∧
      Unicode.KeepsSigmas "7".toList "\u03a3".toList "".toList ∧
      Kind.user ∈ (Policy.empty.set .user 1).violations
        ⟨"7" ++ "\u03a3" ++ "", some "\u03a3", none⟩ ∧
      ¬ Unicode.HasOpenSigma "\u03a3o".toList ∧
      Kind.user ∈ (Policy.empty.set .user 1).violations
        ⟨"A" ++ "\u03a3o" ++ "\u03a3", some "\u03a3o", none⟩ := by
  have hon : (Policy.empty.set .user 1).enabled .user = true := by decide
  have hkeeps : Unicode.KeepsSigmas "7".toList "\u03a3".toList "".toList := by decide +kernel
  have hsettled : ¬ Unicode.HasOpenSigma "\u03a3o".toList := by decide +kernel
  refine ⟨hon, hkeeps, ?_, hsettled, ?_⟩
  · exact (forall_user_mem_violations_iff hon "\u03a3").1 "7" "" none hkeeps
  · exact (forall_user_mem_violations_iff hon "\u03a3o").2.mpr hsettled "A" "\u03a3" none

/-- A capital sigma as a name is not found in a password where it stands behind a letter: there it
is final. -/
theorem lone_sigma_escapes :
    (Policy.empty.set .user 1).enabled .user = true ∧
      Kind.user ∉ (Policy.empty.set .user 1).violations
        ⟨"A" ++ "\u03a3" ++ "", some "\u03a3", none⟩ := by
  have hon : (Policy.empty.set .user 1).enabled .user = true := by decide
  refine ⟨hon, ?_⟩
  rw [user_mem_violations_iff hon]
  decide +kernel

/-! ### Letters in the other case -/

/-- **The case of ASCII letters does not matter**, neither in the password nor in the name, and
whatever characters stand around them. -/
theorem user_mem_violations_iff_of_sameLetters (p : Policy)
    {password password' user user' : String}
    (hpassword : Text.SameLetters password.toList password'.toList)
    (huser : Text.SameLetters user.toList user'.toList) (history history' : Option History) :
    Kind.user ∈ p.violations ⟨password, some user, history⟩ ↔
      Kind.user ∈ p.violations ⟨password', some user', history'⟩ := by
  by_cases hon : p.enabled .user = true
  · rw [user_mem_violations_iff hon, user_mem_violations_iff hon, hpassword.lowerCase_eq,
      huser.lowerCase_eq]
  · exact iff_of_false (fun hmem => hon (mem_violations.mp hmem).1)
      (fun hmem => hon (mem_violations.mp hmem).1)

/-- The letter that makes a sigma final may be a capital or a small one. -/
theorem user_mem_violations_iff_of_sameLetters_of_sigma :
    Text.SameLetters "xA\u03a3".toList "Xa\u03a3".toList ∧
      Text.SameLetters "a\u03a3".toList "A\u03a3".toList ∧
      Kind.user ∈ (Policy.empty.set .user 1).violations ⟨"xA\u03a3", some "a\u03a3", none⟩ ∧
      Kind.user ∈ (Policy.empty.set .user 1).violations ⟨"Xa\u03a3", some "A\u03a3", none⟩ := by
  have hpassword : Text.SameLetters "xA\u03a3".toList "Xa\u03a3".toList := by decide
  have huser : Text.SameLetters "a\u03a3".toList "A\u03a3".toList := by decide
  have hmem : Kind.user ∈ (Policy.empty.set .user 1).violations
      ⟨"xA\u03a3", some "a\u03a3", none⟩ := by decide +kernel
  exact ⟨hpassword, huser, hmem,
    (user_mem_violations_iff_of_sameLetters _ hpassword huser none none).mp hmem⟩

end PasswordPolicy.Policy
