import PasswordPolicy.Proofs.Fields.Override
import PasswordPolicy.Proofs.Specification.RoundTrip

/-!
# Policies as named fields

A policy is defined by named fields unless a bound is below the value that switches it off, which no
field can hold. The report then has one error for each such bound. The fields give every value back
except that a demand is only made or not made; and the record of the fields is read as the same
fields again.

* **`ofPolicy_eq_ok_iff`**, **`eq_of_ofPolicy_eq_error`**: what becomes of a policy.
* **`ofPolicy_toPolicy`**: the policy that a definition gives.
* **`ofValue_toValue`**: reading the record of a definition.
-/

namespace PasswordPolicy

variable {p : Policy} {k : Kind}

/-! ### Values that no field holds -/

namespace Policy

/-- The constraint is a bound below the value that switches it off. -/
def Offends (p : Policy) (k : Kind) : Prop := k.family ≠ .prohibit ∧ p.get k < k.default

instance (p : Policy) : DecidablePred p.Offends := fun k =>
  inferInstanceAs (Decidable (k.family ≠ .prohibit ∧ p.get k < k.default))

/-- The error of the field that would have to hold the bound. -/
def offence (p : Policy) (k : Kind) : FieldError :=
  ⟨[.text k.key], .below k.default, .int (p.get k)⟩

/-- **No value offends** exactly if no minimum is negative and the limit of the age is at least
minus one. -/
theorem forall_not_offends_iff : (∀ k, ¬ p.Offends k) ↔
    (∀ k, k.family = .minimum → 0 ≤ p.get k) ∧ -1 ≤ p.get .age := by
  constructor
  · intro h
    have hbound (k : Kind) (hk : k.family ≠ .prohibit) : k.default ≤ p.get k := by
      by_contra hlt
      exact h k ⟨hk, Int.not_le.mp hlt⟩
    refine ⟨fun k hk => ?_, hbound .age (by decide)⟩
    have hdefault : k.default = 0 := by rw [Kind.default, hk]; rfl
    rw [← hdefault]
    exact hbound k (by rw [hk]; decide)
  · rintro ⟨hminimum, hage⟩ k ⟨hk, hlt⟩
    -- a bound is a minimum, with zero as its default, or the limit of the age
    rcases Specification.bound_of_ne_prohibit hk with hk | hk
    · have hdefault : k.default = 0 := by rw [Kind.default, hk]; rfl
      have hnonneg := hminimum k hk
      omega
    · obtain rfl : k = .age := by cases k with
        | age => rfl
        | _ => cases hk
      have hdefault : Kind.age.default = -1 := rfl
      omega

end Policy

namespace Fields

theorem demanded_of_bound (hk : k.family ≠ .prohibit) : demanded p k = p.get k := by
  cases k with
  | user => exact absurd rfl hk
  | _ => rfl

/-- A demand is asked for by whether it is made, whatever its value. -/
theorem demanded_user : demanded p .user = if p.get .user = 0 then 0 else 1 := by
  show switchValue (Kind.enabled .user (p.stored .user)) = _
  rw [← Policy.enabled_eq]
  by_cases hzero : p.get .user = 0
  · rw [if_pos hzero, Policy.enabled, hzero]
    rfl
  · have hon : p.enabled .user = true := Policy.enabled_iff.mpr hzero
    rw [if_neg hzero, hon]
    rfl

/-- What is asked for can be held by the field unless the policy offends there. -/
theorem admissible_demanded_iff : k.Admissible (demanded p k) ↔ ¬ p.Offends k := by
  -- a demand is asked for as zero or one, and a switch can hold both
  by_cases hk : k.family = .prohibit
  · obtain rfl := Kind.family_eq_prohibit_iff.mp hk
    refine iff_of_true ?_ fun h => h.1 hk
    rw [demanded_user]
    by_cases hzero : p.get .user = 0
    · rw [if_pos hzero]
      decide
    · rw [if_neg hzero]
      decide
  · have hadmissible : k.Admissible (p.get k) ↔ k.default ≤ p.get k := by
      unfold Kind.Admissible
      rcases Specification.bound_of_ne_prohibit hk with hk | hk
      · rw [hk]
      · rw [hk]
    rw [demanded_of_bound hk, hadmissible, Policy.Offends, not_and, Int.not_lt]
    exact ⟨fun h _ => h, fun h => h hk⟩

/-- Values that fields can hold are demanded as they are. -/
theorem demanded_eq_get (h : k.Admissible (p.get k)) : demanded p k = p.get k := by
  by_cases hk : k.family = .prohibit
  · obtain rfl := Kind.family_eq_prohibit_iff.mp hk
    rw [demanded_user]
    rcases h with huser | huser
    · rw [huser]
      rfl
    · rw [huser]
      rfl
  · exact demanded_of_bound hk

/-! ### The definition of a policy -/

/-- The complaint about a value is that the policy offends there. -/
theorem valueError?_eq : valueError? p k = if p.Offends k then some (p.offence k) else none := by
  unfold valueError? Kind.accept
  by_cases hk : p.Offends k
  · rw [if_pos hk, dif_neg (mt admissible_demanded_iff.mp (not_not_intro hk)),
      demanded_of_bound hk.1]
    rfl
  · rw [if_neg hk, dif_pos (admissible_demanded_iff.mpr hk)]

/-- **A policy can be written as fields** exactly if it does not offend, and the fields hold what is
asked for. -/
theorem ofPolicy_eq_ok_iff {fields : Fields} : ofPolicy p = .ok fields ↔
    (∀ k, ¬ p.Offends k) ∧ ∀ k, fields.value k = demanded p k := by
  have hall : (∀ k : Kind, k.Admissible (demanded p k)) ↔ ∀ k, ¬ p.Offends k :=
    forall_congr' fun _ => admissible_demanded_iff
  unfold ofPolicy
  by_cases h : ∀ k : Kind, k.Admissible (demanded p k)
  · rw [dif_pos h, Except.ok.injEq]
    constructor
    · rintro rfl
      exact ⟨hall.mp h, fun _ => rfl⟩
    · rintro ⟨_, hvalue⟩
      exact Fields.ext (funext fun k => (hvalue k).symm)
  · rw [dif_neg h, ← hall]
    exact ⟨nofun, fun hok => absurd hok.1 h⟩

/-- So whether it can be written depends on the bounds only. -/
theorem exists_ofPolicy_iff : (∃ fields, ofPolicy p = .ok fields) ↔ ∀ k, ¬ p.Offends k := by
  constructor
  · rintro ⟨fields, h⟩
    exact (ofPolicy_eq_ok_iff.mp h).1
  · intro h
    have hadmissible (k : Kind) : k.Admissible (demanded p k) := admissible_demanded_iff.mpr (h k)
    exact ⟨⟨demanded p, hadmissible⟩, ofPolicy_eq_ok_iff.mpr ⟨h, fun _ => rfl⟩⟩

/-- **The report on a policy that no fields define**: one error for each bound that offends. They
are listed in the order of the fields, and no demand is among them. -/
theorem eq_of_ofPolicy_eq_error {errors : List FieldError} (h : ofPolicy p = .error errors) :
    errors = (Kind.all.filter p.Offends).map p.offence := by
  -- the values are gone through in the order of the kinds, so this is shown for any list of them
  have hreport (kinds : List Kind) :
      kinds.filterMap (valueError? p) = (kinds.filter p.Offends).map p.offence := by
    induction kinds with
    | nil => rfl
    | cons k kinds ih =>
      by_cases hk : p.Offends k
      · rw [List.filter_cons_of_pos (by simpa using hk), List.map_cons, ← ih,
          List.filterMap_cons_some (by rw [valueError?_eq, if_pos hk])]
      · rw [List.filter_cons_of_neg (by simpa using hk), ← ih,
          List.filterMap_cons_none (by rw [valueError?_eq, if_neg hk])]
  unfold ofPolicy at h
  extract_lets report at h
  split at h
  · cases h
  · rw [← Except.error.inj h]
    exact hreport Kind.all

/-- **The policy that a definition gives** is defined by it again. The values of fields are
admissible, so none of them offends. -/
theorem ofPolicy_toPolicy (fields : Fields) : ofPolicy fields.toPolicy = .ok fields := by
  have hdemanded (k : Kind) : demanded fields.toPolicy k = fields.value k :=
    demanded_eq_get (fields.admissible k)
  refine ofPolicy_eq_ok_iff.mpr ⟨fun k => ?_, fun k => (hdemanded k).symm⟩
  rw [← admissible_demanded_iff, hdemanded]
  exact fields.admissible k

/-! ### Reading the record of a definition -/

/-- Each field reads its own value back. A switch is written as a truth value and a bound as an
integer, and both are read as they stand. -/
theorem readField_fieldValue (fields : Fields) (k : Kind) :
    k.readField (fields.fieldValue k) = .ok ⟨fields.value k, fields.admissible k⟩ := by
  have haccept {value : Int} (hvalue : value = fields.value k) :
      k.accept value = .ok ⟨fields.value k, fields.admissible k⟩ := by
    subst hvalue
    exact dif_pos (fields.admissible k)
  unfold Kind.readField fieldValue
  by_cases hk : k.isSwitch = true
  · rw [if_pos hk, if_pos hk]
    apply haccept
    -- a switch has no values but zero and one
    obtain rfl : k = .user := by cases k with
      | user => rfl
      | _ => cases hk
    rcases fields.admissible .user with hvalue | hvalue
    · rw [hvalue]
      rfl
    · rw [hvalue]
      rfl
  · rw [if_neg hk, if_neg hk]
    exact haccept rfl

/-- The entries of the record of a definition. -/
def entries (fields : Fields) : Entries :=
  fields.labelled.map fun (name, value) => (.text name, value)

/-- The entries of the fields give each field its value under the label. -/
theorem given_entries (fields : Fields) (k : Kind) :
    given fields.entries k = some (k.label, fields.fieldValue k) := by
  have hget : fields.entries.get? (.text k.label) = some (fields.fieldValue k) := by
    cases k <;> rfl
  rw [given, hget]

/-- Nothing is reported on the entries of fields. -/
theorem report_entries (fields : Fields) : report fields.entries = [] := by
  refine report_eq_nil_iff.mpr ⟨fun k => ?_, fun entry hentry => ?_⟩
  · rw [fieldError?, given_entries]
    simp only [readField_fieldValue]
  · -- every key is the label of a field
    obtain ⟨⟨name, value⟩, hlabelled, rfl⟩ := List.mem_map.mp hentry
    obtain ⟨k, -, hk⟩ := List.mem_map.mp hlabelled
    obtain rfl : k.label = name := (Prod.mk.inj hk).1
    exact isFieldKey_iff.mpr ⟨k, k.label, fields.fieldValue k, given_entries fields k, rfl⟩

/-- **The record of a definition is read as the same definition.** -/
theorem ofValue_toValue (fields : Fields) : ofValue fields.toValue = .ok fields := by
  show ofEntries fields.entries = .ok fields
  refine ofEntries_eq_ok_iff_report.mpr ⟨fields.report_entries, fun k => ?_⟩
  rw [readValue, given_entries]
  simp only [readField_fieldValue]

end Fields

end PasswordPolicy
