import PasswordPolicy.Proofs.Settings.Accepted
import PasswordPolicy.Proofs.Settings.Variables

/-!
# Layers of the specification

A specification can be configured in three places: in the plain variable, in the prefixed one and in
the data. The first of them that is there counts, be it empty or malformed, and the others are not
looked at. What counts is then read as if it had been given alone.

* **`load_rules_layers`**: which specification counts, and what comes of it.
-/

namespace PasswordPolicy.Settings

/-! ### A specification alone -/

/-- Settings with rules only are accepted or refused as the rules are. -/
theorem ofEntries_rules (value : Value) : ofEntries [(.text rulesName, value)] =
    (readRules [(.text rulesName, value)]).map fun rules => ⟨rules, none⟩ := by
  have hpolicy : isGiven [(.text rulesName, value)] policyName = false := rfl
  have hread : readPolicy [(.text rulesName, value)] = .ok none := rfl
  have hunknown : unknownErrors [(.text rulesName, value)] = [] := rfl
  unfold ofEntries
  rw [hpolicy, Bool.and_false, hread, hunknown]
  cases readRules [(.text rulesName, value)] with
  | ok rules => rfl
  | error errors =>
    show Except.error (errors ++ [] ++ []) = _
    rw [List.append_nil, List.append_nil]
    rfl

/-! ### The value that counts -/

/-- The value that counts, by the plain variable, the prefixed one and the data; the default is an
empty specification. -/
def topmost : (plain prefixed : Option String) → (given : Option Value) → Value
  | some text, _, _ => .text text
  | none, some text, _ => .text text
  | none, none, some value => value
  | none, none, none => .text ""

/-- **The topmost source of the rules wins**: loading with all sources is loading what the topmost
one says. -/
theorem load_entryOf_rules {env : Environment} {plain prefixed : Option String}
    (given : Option Value) (hplain : env.Gives "rules" plain)
    (hprefixed : env.Gives "password_rules_rules" prefixed)
    (hpolicy : ∀ entry ∈ env, ¬ Environment.NamesPolicy entry.1) :
    load (entryOf rulesName given) env =
      load [(.text rulesName, topmost plain prefixed given)] [] := by
  have halone (value : Value) : load [(.text rulesName, value)] [] =
      ofEntries [(.text rulesName, value)] := by
    rw [load, merge_singleton (.inl rfl)]
  -- a variable has a text, and a text replaces whatever was there
  have hover (text : String) : mergedValue given (some (.text text)) = some (.text text) := by
    cases given with
    | none => rfl
    | some value => exact congrArg some (value.merge_text text)
  rw [halone, load, merge_entryOf (.inl ⟨rfl, Environment.rules?_eq hplain hprefixed,
    Environment.policy?_eq_none hpolicy⟩)]
  cases plain with
  | some text =>
    show ofEntries (entryOf rulesName (mergedValue given (some (.text text)))) = _
    rw [hover]
    rfl
  | none =>
    cases prefixed with
    | some text =>
      show ofEntries (entryOf rulesName (mergedValue given (some (.text text)))) = _
      rw [hover]
      rfl
    | none =>
      cases given with
      | some value => rfl
      | none =>
        -- without any source the rules are the empty text, and so they are by default
        have hempty : Policy.ofSpecification "" = .ok Policy.empty := rfl
        have hload := load_rules hempty
        rw [halone] at hload
        exact hload.symm

/-! ### What comes of it -/

/-- The settings that are accepted have a policy. The rules were read when they were accepted, and
fields always define a policy. -/
theorem exists_toPolicy {data : Entries} {env : Environment} {settings : Settings}
    (h : load data env = .ok settings) : ∃ p, settings.toPolicy = .ok p := by
  obtain ⟨-, -, hrules, -⟩ := ofEntries_eq_ok_iff.mp h
  unfold toPolicy
  cases settings.policy with
  | some fields => exact ⟨fields.toPolicy, rfl⟩
  | none =>
    rcases readRules_eq_ok_iff.mp hrules with ⟨-, hblank⟩ | ⟨-, p, hp⟩
    · rw [hblank]
      exact ⟨Policy.empty, rfl⟩
    · exact ⟨p, hp⟩

theorem load_rules_of_readRules {value : Value} {errors : List FieldError}
    (h : readRules [(.text rulesName, value)] = .error errors) :
    load [(.text rulesName, value)] [] = .error errors := by
  rw [load, merge_singleton (.inl rfl), ofEntries_rules, h]
  rfl

/-- A text that is no specification is refused with the parser's message. -/
theorem load_rules_of_error {s : String} {e : Specification.Error}
    (h : Policy.ofSpecification s = .error e) : load [(.text rulesName, .text s)] [] =
      .error [⟨[.text rulesName], .broken e.message, .text s⟩] := by
  apply load_rules_of_readRules
  have hget : Entries.get? [(.text rulesName, .text s)] (.text rulesName) = some (.text s) := rfl
  unfold readRules
  rw [hget]
  simp only [h]

/-- Rules that are no text are refused as such. -/
theorem load_rules_of_not_text {value : Value} (h : ∀ s, value ≠ .text s) :
    load [(.text rulesName, value)] [] = .error [⟨[.text rulesName], .notText, value⟩] := by
  apply load_rules_of_readRules
  have hget : Entries.get? [(.text rulesName, value)] (.text rulesName) = some value := rfl
  unfold readRules
  rw [hget]
  split
  · next hnone => cases hnone
  · next s hs => exact absurd (Option.some.inj hs) (h s)
  · next w _ hw => rw [Option.some.inj hw]

/-- **Which specification counts.** It is the topmost one: with the data it is given alone. Accepted
settings have a policy. A text is accepted exactly if it is a specification, and otherwise the one
error tells what is wrong with it; anything but a text is refused as such. -/
theorem load_rules_layers :
    (∀ (given : Option Value) (env : Environment) (plain prefixed : Option String),
      env.Gives "rules" plain → env.Gives "password_rules_rules" prefixed →
      (∀ entry ∈ env, ¬ Environment.NamesPolicy entry.1) →
        load (entryOf rulesName given) env =
          load [(.text rulesName, topmost plain prefixed given)] []) ∧
      (∀ data env settings, load data env = .ok settings → ∃ p, settings.toPolicy = .ok p) ∧
      (∀ s p, Policy.ofSpecification s = .ok p →
        load [(.text rulesName, .text s)] [] = .ok ⟨s, none⟩ ∧ toPolicy ⟨s, none⟩ = .ok p) ∧
      (∀ s e, Policy.ofSpecification s = .error e → ∃ fault,
        load [(.text rulesName, .text s)] [] = .error [⟨[.text rulesName], fault, .text s⟩] ∧
          fault.message = "Value error, " ++ e.message) ∧
      ∀ value, (∀ s, value ≠ .text s) →
        load [(.text rulesName, value)] [] = .error [⟨[.text rulesName], .notText, value⟩] := by
  refine ⟨?_, ?_, ?_, ?_, ?_⟩
  · intro given env plain prefixed hplain hprefixed hpolicy
    exact load_entryOf_rules given hplain hprefixed hpolicy
  · intro data env settings h
    exact exists_toPolicy h
  · intro s p h
    exact ⟨load_rules h, h⟩
  · intro s e h
    exact ⟨.broken e.message, load_rules_of_error h, rfl⟩
  · intro value h
    exact load_rules_of_not_text h

open Environment in
/-- An empty plain variable hides a malformed prefixed one and a number in the data; the malformed
one alone is refused. -/
theorem load_rules_layers_of_empty_text :
    Gives [("RULES", ""), ("PASSWORD_RULES_RULES", "length<=8")] "rules" (some "") ∧
      Gives [("RULES", ""), ("PASSWORD_RULES_RULES", "length<=8")] "password_rules_rules"
        (some "length<=8") ∧
      (∀ entry ∈ ([("RULES", ""), ("PASSWORD_RULES_RULES", "length<=8")] : Environment),
        ¬ NamesPolicy entry.1) ∧
      load [(.text "rules", .int 5)] [("RULES", ""), ("PASSWORD_RULES_RULES", "length<=8")] =
        .ok ⟨"", none⟩ := by
  have hplain : Gives [("RULES", ""), ("PASSWORD_RULES_RULES", "length<=8")] "rules" (some "") := by
    refine @Gives.value _ _ [] _ "RULES" _ rfl (by decide +kernel) ?_
    decide +kernel
  have hprefixed : Gives [("RULES", ""), ("PASSWORD_RULES_RULES", "length<=8")]
      "password_rules_rules" (some "length<=8") := by
    refine @Gives.value _ _ [("RULES", "")] _ "PASSWORD_RULES_RULES" _ rfl (by decide +kernel) ?_
    nofun
  have hnone : ∀ entry ∈ ([("RULES", ""), ("PASSWORD_RULES_RULES", "length<=8")] : Environment),
      ¬ NamesPolicy entry.1 := by decide +kernel
  obtain ⟨hlayers, -, haccepted, -⟩ := load_rules_layers
  refine ⟨hplain, hprefixed, hnone, ?_⟩
  exact (hlayers (some (.int 5)) _ _ _ hplain hprefixed hnone).trans
    (haccepted "" Policy.empty rfl).1

end PasswordPolicy.Settings
