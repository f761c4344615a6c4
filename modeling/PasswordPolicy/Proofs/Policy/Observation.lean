import PasswordPolicy.Age
import PasswordPolicy.Evaluation
import PasswordPolicy.Fields.Basic
import PasswordPolicy.Proofs.Policy.Clauses

/-!
# Observing a policy

Two policies may store different values and still be equivalent: a stored default counts as much as
none. No observer can tell equivalent policies apart, since each asks for a value only through
`get`, or through the stored value in a way that a stored default does not show. The other way
round, the canonical text alone tells policies apart, as far as a demand has one when it is made.

* **`observation_congr`**: equivalent policies are observed alike.
* **`equiv_of_text`**: the canonical text decides equivalence.
-/

namespace PasswordPolicy

/-- Everything that a policy can be asked. -/
structure Observation where
  text : String
  display : String
  get : Kind → Int
  minLength : Int
  minUpper : Int
  minLower : Int
  minDigit : Int
  minSpecial : Int
  minUnique : Int
  maxAge : Int
  noUser : Bool
  requireMixedCase : Bool
  requireDigits : Bool
  requireSpecial : Bool
  preventRepeats : Bool
  expirePasswords : Bool
  restrictUser : Bool
  /-- The definition by named fields, or the report on the values that no field can have. -/
  fields : Except (List FieldError) Fields
  violations : Attempt → List Kind
  /-- The generations that the history is asked for. -/
  asked : Attempt → List Nat
  tooOld : Moment → Now → Except MomentError Bool

namespace Policy

def observation (p : Policy) : Observation where
  text := p.text
  display := p.display
  get := p.get
  minLength := p.minLength
  minUpper := p.minUpper
  minLower := p.minLower
  minDigit := p.minDigit
  minSpecial := p.minSpecial
  minUnique := p.minUnique
  maxAge := p.maxAge
  noUser := p.noUser
  requireMixedCase := p.requireMixedCase
  requireDigits := p.requireDigits
  requireSpecial := p.requireSpecial
  preventRepeats := p.preventRepeats
  expirePasswords := p.expirePasswords
  restrictUser := p.restrictUser
  fields := Fields.ofPolicy p
  violations := p.violations
  asked := p.asked
  tooOld := p.tooOld

variable {p q : Policy}

/-! ### Stored defaults -/

/-- The policy with the default stored wherever nothing was. -/
def filled (p : Policy) : Policy := ⟨fun k => some (p.get k)⟩

/-- Equivalent policies differ in what they store only, and filling leaves no difference. -/
theorem filled_congr (h : p ≈ q) : p.filled = q.filled :=
  Policy.ext (funext fun k => congrArg some (h k))

@[simp] theorem get_filled (p : Policy) (k : Kind) : p.filled.get k = p.get k := rfl

/-- A stored default does not switch a constraint on. -/
theorem enabled_stored_filled (p : Policy) (k : Kind) :
    k.enabled (p.filled.stored k) = k.enabled (p.stored k) := by
  rw [← enabled_eq, ← enabled_eq, enabled, enabled, get_filled]

/-- The clauses are put together from the stored values, but a stored default adds none. -/
theorem clauses_filled (p : Policy) : p.filled.clauses = p.clauses := by
  rw [clauses_eq, clauses_eq]
  rfl

theorem text_filled (p : Policy) : p.filled.text = p.text := by
  rw [text, text, canonical, canonical, clauses_filled]

/-- The fields ask for the stored value of a demand, but a stored default is no demand. -/
theorem ofPolicy_filled (p : Policy) : Fields.ofPolicy p.filled = Fields.ofPolicy p := by
  have hdemanded : Fields.demanded p.filled = Fields.demanded p := by
    funext k
    rw [Fields.demanded, Fields.demanded, enabled_stored_filled, get_filled]
  unfold Fields.ofPolicy Fields.valueError?
  simp only [hdemanded]

/-- No observer sees a stored default: what is read from the stored values does not change, and all
else is asked for through `get`. -/
theorem observation_filled (p : Policy) : p.filled.observation = p.observation := by
  unfold observation display
  rw [text_filled, ofPolicy_filled]
  rfl

/-- **Equivalent policies are observed alike**, since both are observed as they are with every
default stored. -/
theorem observation_congr (h : p ≈ q) : p.observation = q.observation := by
  calc
    p.observation = p.filled.observation := p.observation_filled.symm
    _ = q.filled.observation := by rw [filled_congr h]
    _ = q.observation := q.observation_filled

/-! ### The canonical text -/

/-- **The canonical text decides equivalence.** The clause of a demand leaves its value open, so a
demand that is made has to be made with one. -/
theorem equiv_of_text (hp : p.get .user = 0 ∨ p.get .user = 1)
    (hq : q.get .user = 0 ∨ q.get .user = 1) (h : p.text = q.text) : p ≈ q := by
  obtain ⟨henabled, hget⟩ := text_eq_iff.mp h
  intro k
  by_cases hk : k.family = .prohibit
  · obtain rfl := Kind.family_eq_prohibit_iff.mp hk
    -- a demand that is made with one tells its value by being switched on
    have hiff : p.get .user ≠ 0 ↔ q.get .user ≠ 0 := by
      have hon : p.enabled .user = true ↔ q.enabled .user = true := by rw [henabled]
      rwa [enabled_iff, enabled_iff] at hon
    omega
  · exact hget k hk

/-- **Equivalence is a congruence for every observer, and the canonical text decides it.** The text
is put together from the stored values alone, where a stored default leaves no trace, so it is that
of the values as they are got. -/
theorem observation_congr_and_equiv_of_text :
    (∀ p q : Policy, p ≈ q → p.observation = q.observation) ∧
      (∀ p : Policy, p.canonical =
        [' '].intercalate ((Kind.all.map fun k => k.clause (p.stored k)).filter (· ≠ [])) ∧
        p.canonical =
          [' '].intercalate ((Kind.all.filter p.enabled).map fun k => k.written (p.get k))) ∧
      ∀ p q : Policy, (p.get .user = 0 ∨ p.get .user = 1) → (q.get .user = 0 ∨ q.get .user = 1) →
        p.text = q.text → p ≈ q :=
  ⟨fun _ _ => observation_congr, fun p => ⟨rfl, congrArg [' '].intercalate p.clauses_eq⟩,
    fun _ _ => equiv_of_text⟩

/-- A stored zero is not observed; a negative limit and a demand are told by the text. -/
theorem observation_congr_and_equiv_of_text_of_stored_zero :
    ((empty.set .length 0).set .age (-5) ≈ empty.set .age (-5) ∧
      ((empty.set .length 0).set .age (-5)).observation = (empty.set .age (-5)).observation) ∧
      ((empty.set .age (-5)).set .user 1).text = "age<=-5 !user" ∧
      (((empty.set .digit 0).set .user 1).set .age (-5)).text = "age<=-5 !user" ∧
      (empty.set .age (-5)).set .user 1 ≈ ((empty.set .digit 0).set .user 1).set .age (-5) := by
  have hequiv : (empty.set .length 0).set .age (-5) ≈ empty.set .age (-5) := by decide
  have hp : ((empty.set .age (-5)).set .user 1).text = "age<=-5 !user" := by decide +kernel
  have hq : (((empty.set .digit 0).set .user 1).set .age (-5)).text = "age<=-5 !user" := by
    decide +kernel
  obtain ⟨hcongr, -, htext⟩ := observation_congr_and_equiv_of_text
  exact ⟨⟨hequiv, hcongr _ _ hequiv⟩, hp, hq,
    htext _ _ (.inr (by decide)) (.inr (by decide)) (hp.trans hq.symm)⟩

end Policy

end PasswordPolicy
