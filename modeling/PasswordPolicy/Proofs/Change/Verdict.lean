import Mathlib.Logic.Basic
import Mathlib.Tactic.ByContra
import PasswordPolicy.Change

/-!
# The verdict on a form

A form is checked in stages: is there a new password, is there a confirmation, are they the same,
and does the policy accept the password. The first stage that fails gives the error, and only the
last one, which is left out unless the password changes and the policy is enforced, looks at the
policy and the history.

* **`fails_or_confirms`**: a form fails an early stage or confirms a password.
* **`error_verify_iff`**: which error a form is rejected with.
* **`verify_ok_iff_and_key_iff`**: the whole verdict.
-/

namespace PasswordPolicy

theorem ChangeError.key_injective : Function.Injective ChangeError.key := by
  intro e f h
  revert h
  cases e <;> cases f <;> decide

namespace ChangeRequest

variable {r : ChangeRequest} {password : String} {e : ChangeError}

/-! ### Stages -/

/-- A field is missing, or there is nothing but blanks in it. -/
def BlankField (field : Option String) : Prop :=
  ∀ value, field = some value → ∀ c ∈ value.toList, Unicode.isBlank c = true

/-- The reasons to reject a form before the policy is looked at, each with the stages before it. -/
inductive Fails (r : ChangeRequest) : ChangeError → Prop
  | blankPassword (h : BlankField r.newPassword) : r.Fails .blankPassword
  | blankConfirmation (hnew : ¬ BlankField r.newPassword) (h : BlankField r.confirmation) :
      r.Fails .blankConfirmation
  | differentConfirmation (hnew : ¬ BlankField r.newPassword)
      (hconfirmation : ¬ BlankField r.confirmation) (h : r.confirmation ≠ r.newPassword) :
      r.Fails .differentConfirmation

/-- The form holds the password, which is not blank, and confirms it. -/
structure Confirms (r : ChangeRequest) (password : String) : Prop where
  newPassword : r.newPassword = some password
  notBlank : ∃ c ∈ password.toList, Unicode.isBlank c = false
  confirmation : r.confirmation = some password

/-- Does the policy decide about the password? -/
def Judged (r : ChangeRequest) : Prop := r.passwordChanged = true ∧ r.enforcePolicy = true

instance (r : ChangeRequest) : Decidable r.Judged := inferInstanceAs (Decidable (_ ∧ _))

/-- The reasons to reject a form: an early stage, or the policy. -/
inductive Rejects (r : ChangeRequest) : ChangeError → Prop
  | stage {e : ChangeError} (h : r.Fails e) : r.Rejects e
  | policy {password : String} (hconfirms : r.Confirms password) (hjudged : r.Judged)
      (h : r.policy.violations (r.attempt password) ≠ []) : r.Rejects .policyViolated

/-- The test for a blank field decides `BlankField`. -/
theorem isBlankField_iff {field : Option String} :
    isBlankField field = true ↔ BlankField field := by
  cases field with
  | none => exact iff_of_true rfl nofun
  | some value => simp [isBlankField, BlankField, Unicode.allBlank]

theorem not_blankField_iff {field : Option String} : ¬ BlankField field ↔
    ∃ value, field = some value ∧ ∃ c ∈ value.toList, Unicode.isBlank c = false := by
  simp [BlankField]

/-- The policy is left out for a form that changes nothing, and where it is not enforced. -/
theorem not_judged_iff : ¬ r.Judged ↔ r.passwordChanged = false ∨ r.enforcePolicy = false := by
  rw [Judged, not_and_or, Bool.not_eq_true, Bool.not_eq_true]

/-- **A form fails an early stage or confirms a password.** The stages come one after the other, so
a form that passes the first three has a password and the same confirmation. -/
theorem fails_or_confirms (r : ChangeRequest) :
    (∃ e, r.Fails e) ∨ ∃ password, r.Confirms password := by
  by_cases hnew : BlankField r.newPassword
  · exact .inl ⟨_, .blankPassword hnew⟩
  by_cases hconfirmation : BlankField r.confirmation
  · exact .inl ⟨_, .blankConfirmation hnew hconfirmation⟩
  by_cases hsame : r.confirmation = r.newPassword
  · obtain ⟨password, hpassword, hnotBlank⟩ := not_blankField_iff.mp hnew
    exact .inr ⟨password, hpassword, hnotBlank, hsame.trans hpassword⟩
  · exact .inl ⟨_, .differentConfirmation hnew hconfirmation hsame⟩

/-! ### The verdict in each stage -/

/-- The verdict on a form with a new password: what is left are the confirmation and the policy. -/
theorem verify_of_notBlank (h : ¬ BlankField (some password))
    (hpassword : r.newPassword = some password) :
    r.verify = if isBlankField r.confirmation then .rejected .blankConfirmation
      else if r.confirmation ≠ some password then .rejected .differentConfirmation
      else if r.Judged then r.judge password else .accepted := by
  rw [← isBlankField_iff] at h
  simp only [verify, hpassword]
  rw [if_neg h]
  refine if_congr Iff.rfl rfl (if_congr Iff.rfl rfl ?_)
  -- the form asks the two questions separately and the other way round
  by_cases hjudged : r.Judged
  · rw [if_pos hjudged, if_neg (by simp [hjudged.1, hjudged.2])]
  · rw [if_neg hjudged, if_pos (by simpa using not_judged_iff.mp hjudged)]

/-- A form that fails a stage is rejected for it, and the policy is not looked at. Each reason
carries the stages before it, so only one of them can apply. -/
theorem Fails.verify_eq (h : r.Fails e) : r.verify = .rejected e := by
  cases h with
  | blankPassword h =>
    unfold verify
    split
    · rfl
    · next password hpassword => rw [if_pos (isBlankField_iff.mpr (hpassword ▸ h))]
  | blankConfirmation hnew h =>
    obtain ⟨password, hpassword, -⟩ := not_blankField_iff.mp hnew
    rw [verify_of_notBlank (hpassword ▸ hnew) hpassword, if_pos (isBlankField_iff.mpr h)]
  | differentConfirmation hnew hconfirmation h =>
    obtain ⟨password, hpassword, -⟩ := not_blankField_iff.mp hnew
    rw [verify_of_notBlank (hpassword ▸ hnew) hpassword,
      if_neg (isBlankField_iff.not.mpr hconfirmation), if_pos (hpassword ▸ h)]

/-- A form that confirms a password is accepted or judged by the policy. -/
theorem Confirms.verify_eq (h : r.Confirms password) :
    r.verify = if r.Judged then r.judge password else .accepted := by
  have hnotBlank : ¬ BlankField (some password) := not_blankField_iff.mpr ⟨_, rfl, h.notBlank⟩
  rw [verify_of_notBlank hnotBlank h.newPassword, h.confirmation,
    if_neg (isBlankField_iff.not.mpr hnotBlank), if_neg (not_not.mpr rfl)]

/-! ### Errors -/

/-- The policy has one reason to reject a password: it is violated. -/
theorem error_judge_iff :
    (r.judge password).error = some e ↔
      e = .policyViolated ∧ r.policy.violations (r.attempt password) ≠ [] := by
  dsimp only [judge]
  by_cases hnone : r.policy.violations (r.attempt password) = []
  · simp [hnone]
  · rw [if_neg (by simpa using hnone), Option.some.injEq, and_iff_left hnone]
    exact eq_comm

/-- **Which error a form is rejected with.** The reasons are those of `Rejects`: an early stage, or
the policy where it is asked. -/
theorem error_verify_iff : r.verify.error = some e ↔ r.Rejects e := by
  constructor
  · intro h
    rcases r.fails_or_confirms with ⟨f, hfails⟩ | ⟨password, hconfirms⟩
    · rw [hfails.verify_eq] at h
      cases h
      exact .stage hfails
    · rw [hconfirms.verify_eq] at h
      split at h
      · next hjudged =>
        obtain ⟨rfl, hviolated⟩ := error_judge_iff.mp h
        exact .policy hconfirms hjudged hviolated
      · cases h
  · intro h
    cases h with
    | stage hfails => rw [hfails.verify_eq]; rfl
    | policy hconfirms hjudged h =>
      rw [hconfirms.verify_eq, if_pos hjudged]
      exact error_judge_iff.mpr ⟨rfl, h⟩

/-- **Which forms are accepted**: those that confirm a password which the policy, where it decides,
does not find violated. -/
theorem verify_ok_iff : r.verify.ok = true ↔ ∃ password, r.Confirms password ∧
    (r.Judged → r.policy.violations (r.attempt password) = []) := by
  rw [Verification.ok, Option.isNone_iff_eq_none]
  constructor
  · intro hok
    rcases r.fails_or_confirms with ⟨e, hfails⟩ | ⟨password, hconfirms⟩
    · rw [hfails.verify_eq] at hok
      cases hok
    · refine ⟨password, hconfirms, fun hjudged => ?_⟩
      -- otherwise the form would be rejected by the policy
      by_contra hviolated
      have herror := error_verify_iff.mpr (.policy hconfirms hjudged hviolated)
      rw [hok] at herror
      cases herror
  · rintro ⟨password, hconfirms, haccepted⟩
    -- a form that confirms a password has passed all stages but the policy
    rw [hconfirms.verify_eq]
    split
    · next hjudged =>
      dsimp only [judge]
      rw [haccepted hjudged]
      rfl
    · rfl

/-! ### What else the verdict tells -/

/-- The violations and the generations asked for are those of the confirmed password, or none. The
policy is the only stage that looks at either of them. -/
theorem verify_trace (r : ChangeRequest) :
    (∃ password, r.Confirms password ∧ r.Judged ∧
        r.verify.violations = r.policy.violations (r.attempt password) ∧
        r.verify.asked = r.policy.asked (r.attempt password)) ∨
      r.verify.violations = [] ∧ r.verify.asked = [] := by
  rcases r.fails_or_confirms with ⟨e, hfails⟩ | ⟨password, hconfirms⟩
  · rw [hfails.verify_eq]
    exact .inr ⟨rfl, rfl⟩
  · rw [hconfirms.verify_eq]
    by_cases hjudged : r.Judged
    · rw [if_pos hjudged]
      exact .inl ⟨password, hconfirms, hjudged, rfl, rfl⟩
    · rw [if_neg hjudged]
      exact .inr ⟨rfl, rfl⟩

/-- The violations are listed where they are the reason to reject the form. -/
theorem violations_verify_ne_nil_iff :
    r.verify.violations ≠ [] ↔ r.Rejects .policyViolated := by
  constructor
  · intro hne
    rcases r.verify_trace with ⟨password, hconfirms, hjudged, hviolations, -⟩ | ⟨hnone, -⟩
    · exact .policy hconfirms hjudged (hviolations ▸ hne)
    · exact absurd hnone hne
  · intro h
    cases h with
    | stage hfails => cases hfails
    | policy hconfirms hjudged h =>
      rw [hconfirms.verify_eq, if_pos hjudged]
      exact h

/-- What the verdict on a form tells: whether it is accepted, the key of its error, the violations,
and the generations that the history is asked for. -/
structure VerdictLaw (r : ChangeRequest) : Prop where
  /-- It is accepted if it confirms a password, and the policy is not looked at or not violated. -/
  ok_iff : r.verify.ok = true ↔ ∃ password, r.Confirms password ∧ (r.passwordChanged = false ∨
    r.enforcePolicy = false ∨ r.policy.violations ⟨password, r.username, r.history⟩ = [])
  blankPassword_iff :
    r.verify.error.map ChangeError.key = some "BlankPasswordError" ↔ BlankField r.newPassword
  blankConfirmation_iff : r.verify.error.map ChangeError.key = some "ConfirmPasswordEntry" ↔
    ¬ BlankField r.newPassword ∧ BlankField r.confirmation
  differentConfirmation_iff : r.verify.error.map ChangeError.key = some "PasswordsMustMatch" ↔
    ¬ BlankField r.newPassword ∧ ¬ BlankField r.confirmation ∧ r.confirmation ≠ r.newPassword
  policyViolated_iff : r.verify.error.map ChangeError.key = some "NotPasswordPolicy" ↔
    ∃ password, r.Confirms password ∧ r.passwordChanged = true ∧ r.enforcePolicy = true ∧
      r.policy.violations ⟨password, r.username, r.history⟩ ≠ []
  /-- Violations are listed with the last key only. -/
  violations_ne_nil_iff : r.verify.violations ≠ [] ↔
    r.verify.error.map ChangeError.key = some "NotPasswordPolicy"
  /-- They are those of the new password. -/
  violations_eq (password : String) : r.newPassword = some password → r.verify.violations ≠ [] →
    r.verify.violations = r.policy.violations ⟨password, r.username, r.history⟩
  /-- The history is not asked before the form has come to the policy. -/
  of_asked : r.verify.asked ≠ [] →
    (∃ password, r.Confirms password) ∧ r.passwordChanged = true ∧ r.enforcePolicy = true
  /-- There it is asked as the policy asks it. -/
  asked_eq (password : String) : r.Confirms password → r.passwordChanged = true →
    r.enforcePolicy = true → r.verify.asked = r.policy.asked ⟨password, r.username, r.history⟩

/-- The key of the error tells the error, since the keys differ. -/
theorem map_key_eq_iff (r : ChangeRequest) (e : ChangeError) :
    r.verify.error.map ChangeError.key = some e.key ↔ r.Rejects e := by
  rw [← error_verify_iff, ← Option.map_some,
    (Option.map_injective ChangeError.key_injective).eq_iff]

/-- **The whole verdict.** A form is accepted if it confirms a password that is not blank, unless
the policy decides about it and is violated. Otherwise the key names the first stage that fails. The
violations are listed with the last key only, and they are those of the password. The history is not
asked at all unless the form confirms a password and the policy decides, and then it is asked as the
policy asks it. -/
theorem verify_ok_iff_and_key_iff (r : ChangeRequest) : r.VerdictLaw where
  ok_iff := by
    rw [verify_ok_iff]
    simp only [imp_iff_not_or, not_judged_iff, or_assoc, attempt]
  blankPassword_iff := by
    refine (r.map_key_eq_iff .blankPassword).trans ?_
    exact ⟨fun | .stage (.blankPassword h) => h, fun h => .stage (.blankPassword h)⟩
  blankConfirmation_iff := by
    refine (r.map_key_eq_iff .blankConfirmation).trans ?_
    exact ⟨fun | .stage (.blankConfirmation hnew h) => ⟨hnew, h⟩,
      fun ⟨hnew, h⟩ => .stage (.blankConfirmation hnew h)⟩
  differentConfirmation_iff := by
    refine (r.map_key_eq_iff .differentConfirmation).trans ?_
    exact ⟨fun | .stage (.differentConfirmation hnew hblank h) => ⟨hnew, hblank, h⟩,
      fun ⟨hnew, hblank, h⟩ => .stage (.differentConfirmation hnew hblank h)⟩
  policyViolated_iff := by
    refine (r.map_key_eq_iff .policyViolated).trans ?_
    exact ⟨fun | .policy hconfirms hjudged h => ⟨_, hconfirms, hjudged.1, hjudged.2, h⟩,
      fun ⟨_, hconfirms, hchanged, henforced, h⟩ =>
        .policy hconfirms ⟨hchanged, henforced⟩ h⟩
  violations_ne_nil_iff :=
    violations_verify_ne_nil_iff.trans (r.map_key_eq_iff .policyViolated).symm
  violations_eq password hnew hne := by
    rcases r.verify_trace with ⟨other, hconfirms, -, hviolations, -⟩ | ⟨hnone, -⟩
    · obtain rfl := Option.some.inj (hconfirms.newPassword.symm.trans hnew)
      exact hviolations
    · exact absurd hnone hne
  of_asked hasked := by
    rcases r.verify_trace with ⟨password, hconfirms, hjudged, -⟩ | ⟨-, hnone⟩
    · exact ⟨⟨password, hconfirms⟩, hjudged⟩
    · exact absurd hnone hasked
  asked_eq password hconfirms hchanged henforced := by
    rw [hconfirms.verify_eq, if_pos ⟨hchanged, henforced⟩]
    rfl

/-- A form that confirms the password before the current one. -/
theorem verify_ok_iff_and_key_iff_of_earlier :
    ∃ r : ChangeRequest, r.Confirms "s3cret" ∧ r.passwordChanged = true ∧
      r.enforcePolicy = true ∧ r.policy.violations ⟨"s3cret", r.username, r.history⟩ = [.reuse] ∧
      r.verify.error.map ChangeError.key = some "NotPasswordPolicy" ∧
      r.verify.violations = [.reuse] ∧ r.verify.asked = [0, 1] := by
  refine ⟨⟨some "alice", some "s3cret", some "s3cret", (Policy.empty.set .reuse 3).set .user 1,
    some (History.ofList ["0ther", "s3cret", "older"]), true, true⟩, ?_⟩
  have hconfirms : Confirms ⟨some "alice", some "s3cret", some "s3cret",
      (Policy.empty.set .reuse 3).set .user 1,
      some (History.ofList ["0ther", "s3cret", "older"]), true, true⟩ "s3cret" :=
    ⟨rfl, ⟨'s', by decide, by decide⟩, rfl⟩
  have hlaw := verify_ok_iff_and_key_iff
    ⟨some "alice", some "s3cret", some "s3cret", (Policy.empty.set .reuse 3).set .user 1,
      some (History.ofList ["0ther", "s3cret", "older"]), true, true⟩
  have hreuse : ((Policy.empty.set .reuse 3).set .user 1).violations
      ⟨"s3cret", some "alice", some (History.ofList ["0ther", "s3cret", "older"])⟩ = [.reuse] := by
    decide +kernel
  have herror := hlaw.policyViolated_iff.mpr ⟨_, hconfirms, rfl, rfl, by rw [hreuse]; decide⟩
  refine ⟨hconfirms, rfl, rfl, hreuse, herror, ?_, ?_⟩
  · exact (hlaw.violations_eq "s3cret" rfl (hlaw.violations_ne_nil_iff.mpr herror)).trans hreuse
  · exact (hlaw.asked_eq "s3cret" hconfirms rfl rfl).trans (by decide +kernel)

end ChangeRequest

end PasswordPolicy
