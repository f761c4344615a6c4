import PasswordPolicy.Proofs.Fields.Proper
import PasswordPolicy.Settings.Basic

/-!
# Accepted settings

Settings are accepted if at most one of the two is given, each can be read, and nothing else is
there. A policy can so be configured by its specification or by its named fields, which come to the
same. But what counts as given is not the same everywhere: a record without fields does not count
when both settings are ruled out, and does when the policy is chosen, so it takes the place of a
specification that stands beside it.

* **`ofEntries_eq_ok_iff`**: which entries are accepted.
* **`representations_agree`**: policy, specification and named fields.
* **`toPolicy_of_load`**: what becomes of a configured specification.
-/

namespace PasswordPolicy

theorem Entries.get?_append (front back : Entries) (key : Scalar) :
    Entries.get? (front ++ back) key = (front.get? key).or (back.get? key) := by
  unfold get?
  rw [List.find?_append]
  cases front.find? fun entry => entry.1 == key with
  | none => rfl
  | some entry => rfl

namespace Settings

/-! ### What is accepted -/

section Reading

variable {entries : Entries} {settings : Settings}

/-- **Settings are accepted** exactly if the rules and the policy are not both given, no key is
unknown, and each of the two can be read. -/
theorem ofEntries_eq_ok_iff : ofEntries entries = .ok settings ↔
    (isGiven entries rulesName && isGiven entries policyName) = false ∧
      unknownErrors entries = [] ∧ readRules entries = .ok settings.rules ∧
      readPolicy entries = .ok settings.policy := by
  unfold ofEntries
  -- giving both is refused before anything is read
  by_cases hboth : (isGiven entries rulesName && isGiven entries policyName) = true
  · rw [if_pos hboth, hboth]
    exact ⟨nofun, fun h => absurd h.1 (by decide)⟩
  · rw [if_neg hboth]
    have hboth := eq_false_of_ne_true hboth
    extract_lets unknown
    cases hrules : readRules entries with
    | error errors => exact ⟨nofun, fun h => absurd h.2.2.1 nofun⟩
    | ok rules =>
      cases hpolicy : readPolicy entries with
      | error errors => exact ⟨nofun, fun h => absurd h.2.2.2 nofun⟩
      | ok policy =>
        cases hunknown : unknown with
        | nil =>
          obtain ⟨rules', policy'⟩ := settings
          simp [hboth, hunknown, unknown, Settings.mk.injEq]
        | cons e unknown => exact ⟨nofun, fun h => absurd (hunknown.symm.trans h.2.1) nofun⟩

/-- **The rules are read** if there are none, or if they are a text that is a specification. -/
theorem readRules_eq_ok_iff {rules : String} : readRules entries = .ok rules ↔
    entries.get? (.text rulesName) = none ∧ rules = "" ∨
      entries.get? (.text rulesName) = some (.text rules) ∧
        ∃ p, Policy.ofSpecification rules = .ok p := by
  unfold readRules
  extract_lets error
  split
  · next hnone => simp [hnone, eq_comm]
  · next specification hsome =>
    cases hread : Policy.ofSpecification specification with
    | error e =>
      refine ⟨nofun, fun h => ?_⟩
      rcases h with ⟨hnone, _⟩ | ⟨htext, p, hp⟩
      · cases hsome.symm.trans hnone
      · cases hsome.symm.trans htext
        cases hread.symm.trans hp
    | ok p =>
      constructor
      · intro h
        obtain rfl := Except.ok.inj h
        exact .inr ⟨hsome, p, hread⟩
      · rintro (⟨hnone, _⟩ | ⟨htext, _⟩)
        · cases hsome.symm.trans hnone
        · cases hsome.symm.trans htext
          rfl
  · next value hno hsome =>
    refine ⟨nofun, fun h => ?_⟩
    rcases h with ⟨hnone, _⟩ | ⟨htext, _⟩
    · cases hsome.symm.trans hnone
    · exact absurd (Option.some.inj (hsome.symm.trans htext)) (hno _)

/-- **The policy is read** if there is none, or if it is a record of fields. A null counts as none
here, and a list or a scalar is refused. -/
theorem readPolicy_eq_ok_iff {policy : Option Fields} : readPolicy entries = .ok policy ↔
    (entries.get? (.text policyName) = none ∨ entries.get? (.text policyName) = some .null) ∧
        policy = none ∨
      ∃ value fields, entries.get? (.text policyName) = some value ∧
        Fields.ofValue value = .ok fields ∧ policy = some fields := by
  unfold readPolicy
  split
  · next hnone => simp [hnone, eq_comm]
  · next hnull =>
    constructor
    · intro h
      exact .inl ⟨.inr hnull, (Except.ok.inj h).symm⟩
    · rintro (⟨_, rfl⟩ | ⟨value, fields, hsome, hvalue, _⟩)
      · rfl
      · -- nothing is no record of fields
        cases hnull.symm.trans hsome
        cases hvalue
  · next value hnotNull hsome =>
    have hgiven : ¬ (entries.get? (.text policyName) = none ∨
        entries.get? (.text policyName) = some .null) := by
      rw [hsome]
      rintro (hnone | hnull)
      · cases hnone
      · exact hnotNull (Option.some.inj hnull)
    cases hvalue : Fields.ofValue value with
    | error errors =>
      refine ⟨nofun, fun h => ?_⟩
      rcases h with ⟨habsent, _⟩ | ⟨value', fields, hsome', hvalue', _⟩
      · exact absurd habsent hgiven
      · cases hsome.symm.trans hsome'
        cases hvalue.symm.trans hvalue'
    | ok fields =>
      constructor
      · intro h
        exact .inr ⟨value, fields, hsome, hvalue, (Except.ok.inj h).symm⟩
      · rintro (⟨habsent, _⟩ | ⟨value', fields', hsome', hvalue', rfl⟩)
        · exact absurd habsent hgiven
        · cases hsome.symm.trans hsome'
          cases hvalue.symm.trans hvalue'
          rfl

end Reading

/-! ### Merged data -/

/-- The policy is not among the strangers: its key is a spelling of its own name. -/
theorem get?_strangers (data : Entries) :
    (strangers data).get? (.text policyName) = none := by
  have hcase : isCaseOf policyName (.text policyName) = true := by rfl
  unfold strangers Entries.get?
  rw [Option.map_eq_none_iff, List.find?_eq_none]
  rintro ⟨key, value⟩ hentry hkey
  obtain rfl : key = .text policyName := by simpa using hkey
  have hother := (List.mem_filter.mp hentry).2
  rw [hcase, Bool.or_true] at hother
  cases hother

/-- The entry of a setting, if there is a value for it. -/
def entryOf (name : String) (value : Option Value) : Entries :=
  (value.map fun v => (.text name, v)).toList

theorem get?_entryOf (name other : String) (value : Option Value) :
    (entryOf name value).get? (.text other) = if name = other then value else none := by
  cases value with
  | none => simp [entryOf]
  | some v => simp [entryOf, Entries.get?_cons]

/-- The settings that are merged at a place are those two, the rules first. Either may be missing
there. -/
theorem mergedAt_eq (place : Place) (data : Entries) (env : Environment) :
    mergedAt place data env =
      entryOf rulesName (if placeOf data rulesName = place then
          mergedValue (given? data rulesName) env.rules? else none) ++
        entryOf policyName (if placeOf data policyName = place then
          mergedValue (given? data policyName) env.policy? else none) := by
  have hcons {α β : Type} (f : α → Option β) (a : α) (l : List α) :
      (a :: l).filterMap f = (f a).toList ++ l.filterMap f := by
    rw [List.filterMap_cons]
    cases f a <;> rfl
  have hmap (name : String) (c : Prop) [Decidable c] (value : Option Value) :
      (if c then value.map fun v => (Scalar.text name, v) else none).toList =
        entryOf name (if c then value else none) := by
    by_cases hc : c
    · rw [if_pos hc, if_pos hc, entryOf]
    · rw [if_neg hc, if_neg hc]
      rfl
  rw [mergedAt, hcons, hcons, List.filterMap_nil, List.append_nil, hmap, hmap]

theorem get?_mergedAt (place : Place) (data : Entries) (env : Environment) :
    (mergedAt place data env).get? (.text policyName) =
      if placeOf data policyName = place then mergedValue (given? data policyName) env.policy?
      else none := by
  rw [mergedAt_eq, Entries.get?_append, get?_entryOf, get?_entryOf, if_neg (by decide), if_pos rfl,
    Option.none_or]

/-- The merged data give the policy that the data and the variables give. -/
theorem get?_merge (data : Entries) (env : Environment) :
    (merge data env).get? (.text policyName) =
      mergedValue (given? data policyName) env.policy? := by
  unfold merge
  simp only [Entries.get?_append, get?_strangers, get?_mergedAt]
  cases placeOf data policyName <;> simp

/-- A setting under its own name is merged with nothing, and so it stays. -/
theorem merge_singleton {name : String} (hname : name = rulesName ∨ name = policyName)
    (value : Value) : merge [(.text name, value)] [] = [(.text name, value)] := by
  rcases hname with rfl | rfl
  · rfl
  · rfl

theorem given?_entryOf_rules (value : Option Value) :
    given? (entryOf rulesName value) rulesName = value ∧
      given? (entryOf rulesName value) policyName = none := by
  cases value with
  | none => exact ⟨rfl, rfl⟩
  | some v => exact ⟨rfl, rfl⟩

theorem given?_entryOf_policy (value : Option Value) :
    given? (entryOf policyName value) policyName = value ∧
      given? (entryOf policyName value) rulesName = none := by
  cases value with
  | none => exact ⟨rfl, rfl⟩
  | some v => exact ⟨rfl, rfl⟩

theorem strangers_entryOf {name : String} (hname : name = rulesName ∨ name = policyName)
    (value : Option Value) : strangers (entryOf name value) = [] := by
  rcases hname with rfl | rfl
  · cases value <;> rfl
  · cases value <;> rfl

/-- Data that give one setting, merged with variables that give no other one. What the data give is
merged with what the variables give, and nothing else is added. -/
theorem merge_entryOf {name : String} {env : Environment} {later : Option Value}
    (h : name = rulesName ∧ env.rules? = later ∧ env.policy? = none ∨
      name = policyName ∧ env.policy? = later ∧ env.rules? = none) (given : Option Value) :
    merge (entryOf name given) env = entryOf name (mergedValue given later) := by
  have hname : name = rulesName ∨ name = policyName := h.imp And.left And.left
  have hother (place there : Place) : (if there = place then mergedValue none none else none) =
      (none : Option Value) := ite_self none
  have hat (place : Place) : mergedAt place (entryOf name given) env = entryOf name
      (if placeOf (entryOf name given) name = place then mergedValue given later else none) := by
    rw [mergedAt_eq]
    rcases h with ⟨rfl, hlater, hnone⟩ | ⟨rfl, hlater, hnone⟩
    · obtain ⟨hself, hpolicy⟩ := given?_entryOf_rules given
      rw [hself, hpolicy, hlater, hnone, hother]
      exact List.append_nil _
    · obtain ⟨hself, hrules⟩ := given?_entryOf_policy given
      rw [hself, hrules, hlater, hnone, hother]
      rfl
  unfold merge
  rw [hat, hat, hat, strangers_entryOf hname]
  -- the setting stands in the middle if only the variables give it, and at the end otherwise
  cases placeOf (entryOf name given) name <;> simp [entryOf]

/-! ### One setting alone -/

/-- **A specification alone is accepted** as the rules. -/
theorem load_rules {s : String} {p : Policy} (h : Policy.ofSpecification s = .ok p) :
    load [(.text rulesName, .text s)] [] = .ok ⟨s, none⟩ := by
  have hrules : Entries.get? [(.text rulesName, .text s)] (.text rulesName) = some (.text s) := rfl
  have hpolicy : Entries.get? [(.text rulesName, .text s)] (.text policyName) = none := rfl
  rw [load, merge_singleton (.inl rfl)]
  refine ofEntries_eq_ok_iff.mpr ⟨?_, rfl, ?_, ?_⟩
  · rw [isGiven, isGiven, hpolicy, Bool.and_false]
  · exact readRules_eq_ok_iff.mpr (.inr ⟨hrules, p, h⟩)
  · exact readPolicy_eq_ok_iff.mpr (.inl ⟨.inl hpolicy, rfl⟩)

/-- **A record of fields alone is accepted** as the policy. -/
theorem load_policy {value : Value} {fields : Fields} (h : Fields.ofValue value = .ok fields) :
    load [(.text policyName, value)] [] = .ok ⟨"", some fields⟩ := by
  have hrules : Entries.get? [(.text policyName, value)] (.text rulesName) = none := rfl
  have hpolicy : Entries.get? [(.text policyName, value)] (.text policyName) = some value := rfl
  rw [load, merge_singleton (.inr rfl)]
  refine ofEntries_eq_ok_iff.mpr ⟨?_, rfl, ?_, ?_⟩
  · rw [isGiven, isGiven, hrules, Bool.false_and]
  · exact readRules_eq_ok_iff.mpr (.inl ⟨hrules, rfl⟩)
  · exact readPolicy_eq_ok_iff.mpr (.inr ⟨value, fields, hpolicy, h, rfl⟩)

/-- **Policy, specification and named fields agree.** A policy is defined by named fields exactly if
no bound is below the value that switches it off; the report has one error for each bound that is.
The fields define the same values, but that a demand is made with one. A specification that is
accepted gives the same policy when it is configured, and when the fields that define that policy
are. -/
theorem representations_agree :
    (∀ p : Policy,
      ((∃ fields, Fields.ofPolicy p = .ok fields) ↔
        (∀ k, k.family = .minimum → 0 ≤ p.get k) ∧ -1 ≤ p.get .age) ∧
      (∀ errors, Fields.ofPolicy p = .error errors →
        errors = (Kind.all.filter p.Offends).map p.offence ∧
          ∀ e ∈ errors, e.fault.code = "greater_than_equal") ∧
      ∀ fields, Fields.ofPolicy p = .ok fields →
        (∀ k, k ≠ .user → fields.toPolicy.get k = p.get k) ∧
          fields.toPolicy.get .user = if p.get .user = 0 then 0 else 1) ∧
    ∀ s p, Policy.ofSpecification s = .ok p →
      ∃ fields byRules byPolicy q r, Fields.ofPolicy p = .ok fields ∧
        load [(.text rulesName, .text s)] [] = .ok byRules ∧ byRules.toPolicy = .ok q ∧
        load [(.text policyName, fields.toValue)] [] = .ok byPolicy ∧ byPolicy.toPolicy = .ok r ∧
        q ≈ p ∧ r ≈ p ∧ q ≈ r := by
  refine ⟨fun p => ⟨?_, fun errors h => ⟨Fields.eq_of_ofPolicy_eq_error h, ?_⟩, fun fields h => ?_⟩,
    fun s p h => ?_⟩
  · rw [← Policy.forall_not_offends_iff]
    exact Fields.exists_ofPolicy_iff
  · rw [Fields.eq_of_ofPolicy_eq_error h]
    intro e he
    obtain ⟨k, -, rfl⟩ := List.mem_map.mp he
    rfl
  · obtain ⟨_, hvalue⟩ := Fields.ofPolicy_eq_ok_iff.mp h
    refine ⟨fun k hk => ?_, ?_⟩
    · rw [Fields.get_toPolicy, hvalue,
        Fields.demanded_of_bound (mt Kind.family_eq_prohibit_iff.mp hk)]
    · rw [Fields.get_toPolicy, hvalue, Fields.demanded_user]
  · have hproper : p.Proper :=
      Policy.proper_of_ofSpecification? (show Policy.ofSpecification? (some s) = .ok p from h)
    -- what was read from a text can be written as fields, and both are loaded back
    obtain ⟨fields, hfields, -, hequiv⟩ := hproper.exists_ofPolicy
    exact ⟨fields, _, _, p, fields.toPolicy, hfields, load_rules h, h,
      load_policy fields.ofValue_toValue, rfl, Setoid.refl p, hequiv, Setoid.symm hequiv⟩

/-- A least length below zero and an age below minus one are both reported; a demand that is made
with seven is made with one. -/
theorem representations_agree_of_negative_bounds :
    Fields.ofPolicy (((Policy.empty.set .age (-2)).set .user 7).set .length (-1)) =
        .error [⟨[.text "min_length"], .below 0, .int (-1)⟩,
          ⟨[.text "max_age"], .below (-1), .int (-2)⟩] ∧
      (∃ fields, Fields.ofPolicy ((Policy.empty.set .age (-1)).set .user 7) = .ok fields ∧
        fields.toPolicy.get .user = 1) ∧
      ∃ (p : Policy) (fields : Fields) (byPolicy : Settings) (r : Policy),
        Policy.ofSpecification "!USER length>=012" = .ok p ∧
        load [(.text policyName, fields.toValue)] [] = .ok byPolicy ∧ byPolicy.toPolicy = .ok r ∧
        r ≈ p := by
  obtain ⟨hfields, hconfigured⟩ := representations_agree
  refine ⟨?_, ?_, ?_⟩
  · obtain ⟨haccepted, hreport, -⟩ :=
      hfields (((Policy.empty.set .age (-2)).set .user 7).set .length (-1))
    cases h : Fields.ofPolicy (((Policy.empty.set .age (-2)).set .user 7).set .length (-1)) with
    | ok fields => exact absurd (haccepted.mp ⟨fields, h⟩).2 (by decide)
    | error errors =>
      rw [(hreport errors h).1]
      rfl
  · obtain ⟨haccepted, -, hvalues⟩ := hfields ((Policy.empty.set .age (-1)).set .user 7)
    have hminimum (k : Kind) (hk : k.family = .minimum) :
        0 ≤ ((Policy.empty.set .age (-1)).set .user 7).get k := by
      cases k with
      | age => cases hk
      | _ => decide
    obtain ⟨fields, h⟩ := haccepted.mpr ⟨hminimum, by decide⟩
    exact ⟨fields, h, (hvalues fields h).2⟩
  · have hsome : (Policy.ofSpecification "!USER length>=012").map Policy.text =
        .ok "length>=12 !user" := by decide +kernel
    obtain ⟨p, hp, -⟩ := Specification.exists_ok_of_map hsome
    obtain ⟨fields, _, byPolicy, _, r, _, _, _, hload, hr, _, hequiv, _⟩ := hconfigured _ p hp
    exact ⟨p, fields, byPolicy, r, hp, hload, hr, hequiv⟩

/-! ### Configured specifications -/

/-- Only a record without fields is read as fields and counts as empty. -/
theorem ofValue_of_not_truthy {value : Value} {fields : Fields} (hempty : value.truthy = false)
    (h : Fields.ofValue value = .ok fields) :
    value = .record [] ∧ fields = Fields.defaults := by
  cases value with
  | scalar s => cases h
  | list items => cases h
  | record entries =>
    obtain rfl : entries = [] := by simpa [Value.truthy] using hempty
    exact ⟨rfl, (Except.ok.inj h).symm⟩

theorem toPolicy_defaults_equiv : Fields.defaults.toPolicy ≈ Policy.empty := fun _ => rfl

/-- A policy that is empty is accepted beside rules, although it is there. Only what is not empty
counts as given beside the rules. -/
theorem load_rules_beside {s : String} {p : Policy} {value : Value} {policy : Option Fields}
    (h : Policy.ofSpecification s = .ok p) (hempty : value.truthy = false)
    (hpolicy : value = .null ∧ policy = none ∨
      ∃ fields, Fields.ofValue value = .ok fields ∧ policy = some fields) :
    load [(.text rulesName, .text s), (.text policyName, value)] [] = .ok ⟨s, policy⟩ := by
  have hmerge : merge [(.text rulesName, .text s), (.text policyName, value)] [] =
      [(.text rulesName, .text s), (.text policyName, value)] := rfl
  have hvalue : Entries.get? [(.text rulesName, .text s), (.text policyName, value)]
      (.text policyName) = some value := rfl
  rw [load, hmerge]
  refine ofEntries_eq_ok_iff.mpr ⟨?_, rfl, ?_, readPolicy_eq_ok_iff.mpr ?_⟩
  · -- what counts as given is what is not empty
    rw [isGiven, isGiven, hvalue]
    show (_ && value.truthy) = false
    rw [hempty, Bool.and_false]
  · exact readRules_eq_ok_iff.mpr (.inr ⟨rfl, p, h⟩)
  · rcases hpolicy with ⟨rfl, rfl⟩ | ⟨fields, hfields, rfl⟩
    · exact .inl ⟨.inr hvalue, rfl⟩
    · exact .inr ⟨value, fields, hvalue, hfields, rfl⟩

/-- **What becomes of a configured specification.** It is what the policy is read from, unless a
record without fields is configured beside it: then no constraint is switched on. -/
theorem toPolicy_of_load {data : Entries} {env : Environment} {settings : Settings}
    (h : load data env = .ok settings) (hrules : Unicode.allBlank settings.rules.toList = false) :
    ∃ p q, Policy.ofSpecification settings.rules = .ok p ∧ settings.toPolicy = .ok q ∧
      (mergedValue (given? data policyName) env.policy? ≠ some (.record []) → q = p) ∧
      (mergedValue (given? data policyName) env.policy? = some (.record []) →
        settings.policy = some Fields.defaults ∧ q ≈ Policy.empty) := by
  obtain ⟨hboth, -, hreadRules, hreadPolicy⟩ := ofEntries_eq_ok_iff.mp h
  rw [← get?_merge]
  obtain ⟨_, hblank⟩ | ⟨hgiven, p, hp⟩ := readRules_eq_ok_iff.mp hreadRules
  · rw [hblank] at hrules
    cases hrules
  have hrulesGiven : isGiven (merge data env) rulesName = true := by
    rw [isGiven, hgiven]
    show (settings.rules != "") = true
    rw [bne_iff_ne]
    intro hnil
    rw [hnil] at hrules
    cases hrules
  rw [hrulesGiven, Bool.true_and] at hboth
  obtain ⟨habsent, hpolicy⟩ | ⟨value, fields, hvalue, hfields, hpolicy⟩ :=
    readPolicy_eq_ok_iff.mp hreadPolicy
  · refine ⟨p, p, hp, ?_, fun _ => rfl, fun hrecord => ?_⟩
    · rw [toPolicy, hpolicy]
      exact hp
    · rcases habsent with hnone | hnull
      · cases hnone.symm.trans hrecord
      · cases hnull.symm.trans hrecord
  · -- beside a specification that is given, the record counts as empty
    have hempty : value.truthy = false := by rwa [isGiven, hvalue] at hboth
    obtain ⟨rfl, rfl⟩ := ofValue_of_not_truthy hempty hfields
    refine ⟨p, Fields.defaults.toPolicy, hp, ?_, fun hne => absurd hvalue hne,
      fun _ => ⟨hpolicy, toPolicy_defaults_equiv⟩⟩
    rw [toPolicy, hpolicy]

theorem ofSpecification_length_eight :
    Unicode.allBlank "length>=8".toList = false ∧
      ∃ p, Policy.ofSpecification "length>=8" = .ok p ∧ p.get .length = 8 :=
  ⟨by decide, _, Specification.ofSpecification_least_eight, rfl⟩

/-- A null policy leaves the specification in force. -/
theorem toPolicy_of_load_of_null :
    ∃ settings p, load [(.text "rules", .text "length>=8"), (.text "policy", .null)] [] =
        .ok settings ∧ Unicode.allBlank settings.rules.toList = false ∧
      mergedValue (given? [(.text "rules", .text "length>=8"), (.text "policy", .null)] "policy")
        (Environment.policy? []) ≠ some (.record []) ∧
      Policy.ofSpecification settings.rules = .ok p ∧ settings.toPolicy = .ok p := by
  obtain ⟨hblank, p, hp, -⟩ := ofSpecification_length_eight
  have hload : load [(.text "rules", .text "length>=8"), (.text "policy", .null)] [] =
      .ok ⟨"length>=8", none⟩ := load_rules_beside hp rfl (.inl ⟨rfl, rfl⟩)
  have hnull : mergedValue (given? [(.text "rules", .text "length>=8"), (.text "policy", .null)]
      "policy") (Environment.policy? []) = some .null := rfl
  have hne : mergedValue (given? [(.text "rules", .text "length>=8"), (.text "policy", .null)]
      "policy") (Environment.policy? []) ≠ some (.record []) := by
    rw [hnull]
    nofun
  obtain ⟨_, q, hrules, hq, hsame, -⟩ := toPolicy_of_load hload hblank
  cases hp.symm.trans hrules
  rw [hsame hne] at hq
  exact ⟨_, p, hload, hblank, hne, hp, hq⟩

/-- **A record without fields takes the place of a specification**: the settings are accepted with
both, and no least length is left. -/
theorem empty_record_displaces_rules :
    ∃ settings p q, load [(.text "rules", .text "length>=8"), (.text "policy", .record [])] [] =
        .ok settings ∧ Unicode.allBlank settings.rules.toList = false ∧
      Policy.ofSpecification settings.rules = .ok p ∧ settings.toPolicy = .ok q ∧ ¬ q ≈ p := by
  obtain ⟨hblank, p, hp, height⟩ := ofSpecification_length_eight
  have hload : load [(.text "rules", .text "length>=8"), (.text "policy", .record [])] [] =
      .ok ⟨"length>=8", some Fields.defaults⟩ :=
    load_rules_beside hp rfl (.inr ⟨Fields.defaults, rfl, rfl⟩)
  refine ⟨_, p, Fields.defaults.toPolicy, hload, hblank, hp, rfl, fun hequiv => ?_⟩
  have hzero : Fields.defaults.toPolicy.get .length = p.get .length := hequiv .length
  exact absurd (hzero.trans height) (by decide)

end Settings

end PasswordPolicy
