import PasswordPolicy.Proofs.Settings.Accepted
import PasswordPolicy.Proofs.Settings.Variables

/-!
# Precedence of variables over fields

A variable for one field of the policy is to take precedence over the field that the data give. The
two are merged by name, though, and what names a field has is known only later. So the variable
replaces a field of the same name, or one that the data leave out; beside a field of the other name
it makes the settings invalid.

* **`load_policy_precedence`**: what becomes of a policy and a variable for one field of it.
* **`valid_variable_refused`**: a valid policy and a valid variable that are not accepted together.
-/

namespace PasswordPolicy.Settings

/-! ### A policy alone -/

/-- A policy alone is accepted exactly if its fields are. There are no rules then, and they are the
empty text. -/
theorem load_policy_eq_ok_iff {entries : Entries} {settings : Settings} :
    load [(.text policyName, .record entries)] [] = .ok settings ↔
      ∃ fields, Fields.ofEntries entries = .ok fields ∧ settings = ⟨"", some fields⟩ := by
  constructor
  · intro h
    rw [load, merge_singleton (.inr rfl)] at h
    obtain ⟨-, -, -, hpolicy⟩ := ofEntries_eq_ok_iff.mp h
    obtain ⟨habsent, -⟩ | ⟨value, fields, hvalue, hfields, -⟩ := readPolicy_eq_ok_iff.mp hpolicy
    · -- the policy is there
      rcases habsent with hnone | hnull
      · cases hnone
      · cases hnull
    · obtain rfl : Value.record entries = value := Option.some.inj hvalue
      have hload := load_policy hfields
      rw [load, merge_singleton (.inr rfl), h] at hload
      exact ⟨fields, hfields, Except.ok.inj hload⟩
  · rintro ⟨fields, hfields, rfl⟩
    exact load_policy hfields

/-- A record that is no policy is refused with the complaints about it, each inside the policy. -/
theorem load_policy_of_error {entries : Entries} {errors : List FieldError}
    (h : Fields.ofEntries entries = .error errors) :
    load [(.text policyName, .record entries)] [] =
      .error (errors.map (·.within (.text policyName))) := by
  have hrules : isGiven [(.text policyName, .record entries)] rulesName = false := rfl
  have hread : readRules [(.text policyName, .record entries)] = .ok "" := rfl
  have hunknown : unknownErrors [(.text policyName, .record entries)] = [] := rfl
  have hpolicy : readPolicy [(.text policyName, .record entries)] =
      .error (errors.map (·.within (.text policyName))) := by
    have hget : Entries.get? [(.text policyName, .record entries)] (.text policyName) =
        some (.record entries) := rfl
    unfold readPolicy
    rw [hget]
    simp only [Fields.ofValue, h]
  rw [load, merge_singleton (.inr rfl)]
  unfold ofEntries
  rw [hrules, Bool.false_and, hread, hpolicy, hunknown]
  simp [errorsOf]

/-! ### A policy and a variable for one field -/

section

variable {entries : Entries} {env : Environment} {k : Kind} {name written text : String}

/-- **The merge is by name**: the variable puts its text under the name that it is written with. It
does not look for the other name of the field. -/
theorem load_policy_of_setsOnly (hname : k.Named name) (honly : env.SetsOnly written text)
    (hwritten : Environment.lowerName written =
      "password_rules_policy__" ++ Environment.lowerName name) :
    load [(.text policyName, .record entries)] env =
      load [(.text policyName, .record (entries.put (.text name) (.text text)))] [] := by
  have hmerge : merge (entryOf policyName (some (.record entries))) env = entryOf policyName
      (some ((Value.record entries).merge (.record [(.text name, .text text)]))) :=
    merge_entryOf (.inr ⟨rfl, honly.policy?_eq hname hwritten, honly.rules?_eq_none hwritten⟩) _
  rw [Value.merge_record_singleton] at hmerge
  rw [load, load, merge_singleton (.inr rfl)]
  exact congrArg ofEntries hmerge

/-- **Precedence of the variable for one field** over a policy that is accepted. If the policy does
not have the field under its other name, the settings are accepted, and their policy differs in this
field only, which has the value of the variable. If it does, the field has two names: the one error
is that the key is unknown. -/
theorem load_policy_precedence {settings : Settings}
    {read : { value : Int // k.Admissible value }} (hkeys : (entries.map Prod.fst).Nodup)
    (h : load [(.text policyName, .record entries)] [] = .ok settings) (hname : k.Named name)
    (honly : env.SetsOnly written text) (hwritten : Environment.lowerName written =
      "password_rules_policy__" ++ Environment.lowerName name)
    (hread : k.readField (.text text) = .ok read) :
    ∃ fields, settings = ⟨"", some fields⟩ ∧
      (entries.get? (.text (k.otherName name)) = none →
        load [(.text policyName, .record entries)] env =
          .ok ⟨"", some (fields.override k read)⟩) ∧
      ∀ before, entries.get? (.text (k.otherName name)) = some before →
        load [(.text policyName, .record entries)] env =
          .error [⟨[.text policyName, .text k.key], .unknownField,
            if name = k.key then .text text else before⟩] := by
  obtain ⟨fields, hfields, rfl⟩ := load_policy_eq_ok_iff.mp h
  refine ⟨fields, rfl, ?_, ?_⟩
  · intro hother
    -- the variable puts one entry into the record, under the name that it gives
    rw [load_policy_of_setsOnly hname honly hwritten]
    exact load_policy (Fields.ofEntries_put hfields hname hother hread)
  · intro before hother
    rw [load_policy_of_setsOnly hname honly hwritten]
    exact load_policy_of_error (Fields.ofEntries_put_other hfields hname hother hkeys hread)

end

theorem ofEntries_minLength : Fields.ofEntries [(.text "minLength", .int 8)] =
    .ok (Fields.defaults.override .length ⟨8, by decide⟩) := by
  have hempty : Fields.ofEntries [] = .ok Fields.defaults := rfl
  have hother : Entries.get? [] (.text (Kind.length.otherName "minLength")) = none := rfl
  have hread : Kind.length.readField (.int 8) = .ok ⟨8, by decide⟩ := by rfl
  exact Fields.ofEntries_put hempty (.inl rfl) hother hread

theorem readField_length_twelve : Kind.length.readField (.text "12") = .ok ⟨12, by decide⟩ := by
  rfl

/-- A least length under its label is overridden by the variable for the label. -/
theorem load_policy_precedence_of_label :
    ∃ fields, load [(.text "policy", .record [(.text "minLength", .int 8)])] [] =
        .ok ⟨"", some fields⟩ ∧
      load [(.text "policy", .record [(.text "minLength", .int 8)])]
          [("PATH", "/bin"), ("Password_Rules_Policy__minLength", "12")] =
        .ok ⟨"", some (fields.override .length ⟨12, by decide⟩)⟩ := by
  have hload := load_policy_eq_ok_iff.mpr ⟨_, ofEntries_minLength, rfl⟩
  have honly : Environment.SetsOnly
      [("PATH", "/bin"), ("Password_Rules_Policy__minLength", "12")]
      "Password_Rules_Policy__minLength" "12" := by
    refine ⟨[("PATH", "/bin")], [], rfl, ?_⟩
    decide +kernel
  have hwritten : Environment.lowerName "Password_Rules_Policy__minLength" =
      "password_rules_policy__" ++ Environment.lowerName "minLength" := by decide +kernel
  have hname : Kind.length.Named "minLength" := .inl rfl
  have hkeys : ([(Scalar.text "minLength", Value.int 8)].map Prod.fst).Nodup := by simp
  have hother : Entries.get? [(.text "minLength", .int 8)]
      (.text (Kind.length.otherName "minLength")) = none := rfl
  obtain ⟨fields, hsettings, hover, -⟩ :=
    load_policy_precedence hkeys hload hname honly hwritten readField_length_twelve
  exact ⟨fields, hsettings ▸ hload, hover hother⟩

/-- **A valid variable is refused**: a policy with a least length under its label is accepted, the
variable has the field's key and a text that the field accepts, and together they are an error. -/
theorem valid_variable_refused :
    (∃ settings, load [(.text "policy", .record [(.text "minLength", .int 8)])] [] =
        .ok settings) ∧
      Environment.SetsOnly [("PASSWORD_RULES_POLICY__MIN_LENGTH", "12")]
        "PASSWORD_RULES_POLICY__MIN_LENGTH" "12" ∧
      Kind.length.readField (.text "12") = .ok ⟨12, by decide⟩ ∧
      load [(.text "policy", .record [(.text "minLength", .int 8)])]
          [("PASSWORD_RULES_POLICY__MIN_LENGTH", "12")] =
        .error [⟨[.text "policy", .text "min_length"], .unknownField, .text "12"⟩] := by
  have honly : Environment.SetsOnly [("PASSWORD_RULES_POLICY__MIN_LENGTH", "12")]
      "PASSWORD_RULES_POLICY__MIN_LENGTH" "12" := ⟨[], [], rfl, nofun⟩
  -- the variable is read without regard to case
  have hwritten : Environment.lowerName "PASSWORD_RULES_POLICY__MIN_LENGTH" =
      "password_rules_policy__" ++ Environment.lowerName "min_length" := by decide +kernel
  have hname : Kind.length.Named "min_length" := .inr rfl
  have hkeys : ([(Scalar.text "minLength", Value.int 8)].map Prod.fst).Nodup := by simp
  have hother : Entries.get? [(.text "minLength", .int 8)]
      (.text (Kind.length.otherName "min_length")) = some (.int 8) := rfl
  have herror := Fields.ofEntries_put_other ofEntries_minLength hname hother hkeys
    readField_length_twelve
  refine ⟨⟨_, load_policy ofEntries_minLength⟩, honly, readField_length_twelve, ?_⟩
  exact (load_policy_of_setsOnly hname honly hwritten).trans (load_policy_of_error herror)

end PasswordPolicy.Settings
