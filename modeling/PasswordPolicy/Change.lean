import PasswordPolicy.Evaluation
import PasswordPolicy.Unicode.Blank

/-!
# Changing a password

A form to change a password holds the new password twice. It is checked in order: the new password
must not be blank, the confirmation must not be blank, both must be the same, and if the password
really changes and the policy is enforced, the policy must not be violated.
-/

namespace PasswordPolicy

/-- Why a change is rejected. -/
inductive ChangeError
  | blankPassword
  | blankConfirmation
  | differentConfirmation
  | policyViolated
deriving DecidableEq, Repr

/-- The key of a rejection in message catalogues. -/
def ChangeError.key : ChangeError → String
  | blankPassword => "BlankPasswordError"
  | blankConfirmation => "ConfirmPasswordEntry"
  | differentConfirmation => "PasswordsMustMatch"
  | policyViolated => "NotPasswordPolicy"

/-- A filled-in form to change a password. -/
structure ChangeRequest where
  username : Option String
  newPassword : Option String
  confirmation : Option String
  policy : Policy
  history : Option History
  /-- Is the new password another one than the stored one? -/
  passwordChanged : Bool
  /-- Is the account subject to the policy? -/
  enforcePolicy : Bool

/-- The outcome of checking a form, with the generations of the history that were asked for. -/
structure Verification where
  error : Option ChangeError
  violations : List Kind
  asked : List Nat
deriving DecidableEq, Repr

namespace Verification

/-- Is the change accepted? -/
def ok (v : Verification) : Bool := v.error.isNone

/-- The outcome of a form that is accepted without asking the history. -/
def accepted : Verification := ⟨none, [], []⟩

/-- The outcome of a form that is rejected before the policy is looked at. -/
def rejected (error : ChangeError) : Verification := ⟨some error, [], []⟩

end Verification

/-- Is a field of a form empty or blank? -/
def isBlankField : Option String → Bool
  | none => true
  | some value => Unicode.allBlank value.toList

namespace ChangeRequest

/-- The attempt to use a password that the form stands for. -/
def attempt (r : ChangeRequest) (password : String) : Attempt := ⟨password, r.username, r.history⟩

/-- Checks the new password against the policy. -/
def judge (r : ChangeRequest) (password : String) : Verification :=
  let attempt := r.attempt password
  let violations := r.policy.violations attempt
  ⟨if violations.isEmpty then none else some .policyViolated, violations, r.policy.asked attempt⟩

/-- Checks the form. -/
def verify (r : ChangeRequest) : Verification :=
  match r.newPassword with
  | none => .rejected .blankPassword
  | some password =>
    if isBlankField (some password) then .rejected .blankPassword
    else if isBlankField r.confirmation then .rejected .blankConfirmation
    else if r.confirmation ≠ some password then .rejected .differentConfirmation
    else if !(r.passwordChanged && r.enforcePolicy) then .accepted
    else r.judge password

end ChangeRequest

end PasswordPolicy
