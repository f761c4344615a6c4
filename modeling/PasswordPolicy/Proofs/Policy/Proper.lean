import PasswordPolicy.Proofs.Specification.RoundTrip

/-!
# Policies with proper values

A value is proper for a kind if it is admissible and has no more digits than a number in a text may
have. A policy with proper values only can be written and read again without loss, and what is read
from a specification has proper values only.

* **`Proper.set`**, **`proper_of_ofSpecification?`**: where proper values come from.
* **`Proper.read_text`**: the round trip through the canonical text.
-/

namespace PasswordPolicy

/-- The integer has no more digits than a number in a text may have. -/
def Text.Short (i : Int) : Prop := (decimalNat i.natAbs).length ≤ maxDigits

/-- A number below a power of ten is short if the exponent is. -/
theorem Text.short_of_natAbs_lt {i : Int} {n : Nat} (hn : n ≤ maxDigits) (h : i.natAbs < 10 ^ n) :
    Short i := by
  have hpos : 0 < maxDigits := by decide
  refine (Nat.length_toDigits_le_iff (by decide) hpos).mpr (Nat.lt_of_lt_of_le h ?_)
  exact Nat.pow_le_pow_right (by decide) hn

/-- A value that is admissible for the kind and can be written in a text. -/
structure Kind.Proper (k : Kind) (value : Int) : Prop where
  admissible : k.Admissible value
  short : Text.Short value

theorem Kind.proper_default (k : Kind) : k.Proper k.default :=
  ⟨k.admissible_default, Text.short_of_natAbs_lt (n := 1) (by decide) (by cases k <;> decide)⟩

/-- The value is proper for the kind that the word names, if it names one. -/
def ProperFor (word : String) (value : Int) : Prop :=
  ∀ k, Kind.ofToken word = .ok k → k.Proper value

/-- A value that is proper for a kind is proper for its token. -/
theorem Kind.Proper.properFor {k : Kind} {v : Int} (h : k.Proper v) : ProperFor k.token v := by
  intro l hl
  -- the token names this kind and no other
  rw [ofToken_token] at hl
  exact Except.ok.inj hl ▸ h

theorem properFor_of_error {word : String} {e : UnknownKind} (h : Kind.ofToken word = .error e)
    (v : Int) : ProperFor word v := fun k hk => by cases h.symm.trans hk

namespace Policy

/-- All stored values are proper. -/
def Proper (p : Policy) : Prop := ∀ k v, p.stored k = some v → k.Proper v

variable {p q : Policy} {k : Kind} {v : Int}

theorem proper_empty : empty.Proper := fun _ _ h => by cases h

theorem Proper.set (h : p.Proper) (hv : k.Proper v) : (p.set k v).Proper := by
  intro l w hw
  rw [stored_set] at hw
  split at hw
  · next hl =>
    cases hw
    exact hl ▸ hv
  · exact h l w hw

/-- Every value, stored or not, is proper. -/
theorem Proper.get (h : p.Proper) (k : Kind) : k.Proper (p.get k) := by
  cases hstored : p.stored k with
  | none =>
    rw [Policy.get, hstored]
    exact k.proper_default
  | some v =>
    rw [get_of_stored hstored]
    exact h k v hstored

theorem Proper.short (h : p.Proper) : p.Short := fun k v hv => (h k v hv).short

/-- All values of such a policy are in the range of those that a text can give. -/
theorem Proper.inRange (h : p.Proper) : p.InRange := by
  refine ⟨fun k v hk hv => ?_, (h.get .age).admissible⟩
  have hadmissible := (h k v hv).admissible
  simp only [Kind.Admissible, Kind.default, hk] at hadmissible
  exact hadmissible

/-- A demand of such a policy is made with one or not at all. -/
theorem Proper.get_user (h : p.Proper) : p.get .user = 0 ∨ p.get .user = 1 :=
  (h.get .user).admissible

/-! ### Where proper values come from -/

/-- What is read from a specification is proper, whatever the text. Its numerals are short and have
no sign, and a demand that is made has one. -/
theorem proper_of_ofSpecification? {specification : Option String}
    (h : ofSpecification? specification = .ok p) : p.Proper := by
  cases specification with
  | none =>
    obtain rfl := Except.ok.inj h
    exact proper_empty
  | some s =>
    -- a text is accepted for its clauses, so each value comes from the numeral of one
    have hspecifies := Specification.read_eq_ok_iff.mp
      (Specification.ofSpecification_eq_ok_iff.mp h)
    intro k v hv
    obtain ⟨hnonneg, hshort, hdemand⟩ := hspecifies.value_cases hv
    refine ⟨?_, hshort⟩
    cases k with
    | age => exact Int.le_trans (by decide) hnonneg
    | user => exact .inr (hdemand rfl)
    | _ => exact hnonneg

/-- What is built from pairs of words and values is proper if the pairs are. -/
theorem proper_of_ofTokens {pairs : List (String × Int)}
    (hpairs : ∀ pair ∈ pairs, ProperFor pair.1 pair.2) (h : ofTokens pairs = .ok p) : p.Proper := by
  unfold ofTokens at h
  generalize hempty : Policy.empty = start at h
  have hstart : start.Proper := hempty ▸ proper_empty
  clear hempty
  -- the values are stored one after the other, so the policy to start from is general
  induction pairs generalizing start with
  | nil =>
    obtain rfl := Except.ok.inj h
    exact hstart
  | cons pair pairs ih =>
    obtain ⟨hpair, hpairs⟩ := List.forall_mem_cons.mp hpairs
    rw [List.foldlM_cons] at h
    cases hk : Kind.ofToken pair.1 with
    | error e =>
      rw [hk] at h
      cases h
    | ok k =>
      rw [hk] at h
      exact ih hpairs _ h (hstart.set (hpair k hk))

/-! ### The canonical text -/

/-- The canonical text asks for values only through `get`. -/
theorem canonical_congr (h : p ≈ q) : p.canonical = q.canonical :=
  canonical_eq_of_enabled (fun k => by rw [enabled, enabled, h k]) fun k _ => h k

theorem text_congr (h : p ≈ q) : p.text = q.text := congrArg String.ofList (canonical_congr h)

/-- **The round trip through the canonical text**: an equivalent policy comes back. It is the
restored policy, which stores what is switched on and nothing else. -/
theorem Proper.read_text (h : p.Proper) :
    ofSpecification p.text = .ok p.restored ∧ p.restored ≈ p :=
  ⟨(Specification.ofSpecification_text_eq_ok_iff h.short).mpr ⟨h.inRange, rfl⟩,
    restored_equiv_iff.mpr h.get_user⟩

end Policy

end PasswordPolicy
