import Mathlib.Data.List.Sort
import PasswordPolicy.Proofs.Specification.RoundTrip

/-!
# Canonical specifications

Among the specifications of a policy one is canonical: the clauses stand in the order of the kinds,
one for a kind, lower-case, with single spaces between them and nothing else, and a number is a
numeral that does not switch its constraint off. These are exactly the texts that are their own
canonical text.

* **`Canonical.exists_policy`**, **`canonical_canonical`**: the canonical specifications are the
  canonical texts of policies with short values in range.
* **`text_eq_iff_canonical`**: which accepted texts stay as they are.
-/

namespace PasswordPolicy.Specification

/-- A clause of the kind as it stands in a canonical specification. -/
inductive CanonicalClause : Kind → List Char → Prop
  | atLeast {k : Kind} {digits : List Char} (hk : k.family = .minimum)
      (hnumeral : Text.Numeral digits) (hpos : digits ≠ ['0'])
      (hshort : digits.length ≤ Text.maxDigits) :
      CanonicalClause k (k.token.toList ++ '>' :: '=' :: digits)
  | atMost {k : Kind} {digits : List Char} (hk : k.family = .maximum)
      (hnumeral : Text.Numeral digits) (hshort : digits.length ≤ Text.maxDigits) :
      CanonicalClause k (k.token.toList ++ '<' :: '=' :: digits)
  | prohibition {k : Kind} (hk : k.family = .prohibit) : CanonicalClause k ('!' :: k.token.toList)

/-- Does the first kind come before the second in every listing? -/
def Precedes (k l : Kind) : Prop := Kind.all.idxOf k < Kind.all.idxOf l

/-- Clauses in the order of their kinds with one space between neighbours. -/
def Canonical (text : List Char) : Prop :=
  ∃ clauses : List (Kind × List Char), (clauses.map Prod.fst).Pairwise Precedes ∧
    (∀ c ∈ clauses, CanonicalClause c.1 c.2) ∧
    text = [' '].intercalate (clauses.map Prod.snd)

/-! ### The order of the kinds

A list of kinds in order is known from its members. -/

instance : Std.Irrefl Precedes := ⟨fun _ => Nat.lt_irrefl _⟩

instance : Std.Antisymm Precedes := ⟨fun _ _ h h' => absurd h (Nat.lt_asymm h')⟩

/-- The list of all kinds is in order, by its definition. -/
theorem pairwise_all : Kind.all.Pairwise Precedes := by
  unfold Precedes
  decide

/-- Kinds in order are what is left of all kinds when the others are dropped. -/
theorem filter_all_of_pairwise {kinds : List Kind} (h : kinds.Pairwise Precedes) {p : Kind → Bool}
    (hmem : ∀ k, p k = true ↔ k ∈ kinds) : Kind.all.filter p = kinds := by
  refine (pairwise_all.filter p).eq_of_mem_iff h fun k => ?_
  rw [List.mem_filter, hmem]
  exact and_iff_right (Kind.mem_all k)

/-! ### Canonical clauses and written clauses -/

/-- A canonical clause is the one that is written for a value which is not negative and switches its
constraint on. The value is that of the numeral, and a demand has one. -/
theorem CanonicalClause.exists_value {k : Kind} {clause : List Char}
    (h : CanonicalClause k clause) : ∃ v : Int, 0 ≤ v ∧ v ≠ k.default ∧
      (Text.decimalNat v.natAbs).length ≤ Text.maxDigits ∧ clause = k.written v := by
  cases h with
  | @atLeast digits hk hnumeral hpos hshort =>
    -- a numeral is what is written for the number that it stands for
    have hback := hnumeral.decimalNat_digitsValue
    refine ⟨Text.digitsValue digits, Int.natCast_nonneg _, fun hzero => ?_, ?_, ?_⟩
    · rw [Kind.default, hk] at hzero
      rw [Int.natCast_eq_zero.mp hzero] at hback
      exact hpos hback.symm
    · rwa [Int.natAbs_natCast, hback]
    · rw [Kind.written, hk, Text.decimal_natCast, hback]
  | @atMost digits hk hnumeral hshort =>
    have hback := hnumeral.decimalNat_digitsValue
    refine ⟨Text.digitsValue digits, Int.natCast_nonneg _, fun hoff => ?_, ?_, ?_⟩
    · have hneg : (Text.digitsValue digits : Int) = -1 := by rw [hoff, Kind.default, hk]; rfl
      omega
    · rwa [Int.natAbs_natCast, hback]
    · rw [Kind.written, hk, Text.decimal_natCast, hback]
  | prohibition hk =>
    refine ⟨1, by decide, ?_, show (Text.decimalNat 1).length ≤ _ by decide, ?_⟩
    · rw [Kind.default, hk]
      decide
    · rw [written_of_prohibit hk]

/-- A clause that is written for a short value that is not negative is canonical. Its number is a
numeral without a sign, and that of a minimum is not zero, since the constraint is switched on. -/
theorem canonicalClause_written {k : Kind} {v : Int} (hon : v ≠ k.default)
    (hvalue : k.family ≠ .prohibit → 0 ≤ v)
    (hshort : (Text.decimalNat v.natAbs).length ≤ Text.maxDigits) :
    CanonicalClause k (k.written v) := by
  have hnumeral := Text.numeral_decimalNat v.natAbs
  by_cases hdemand : k.family = .prohibit
  · -- the clause of a demand shows no value
    rw [written_of_prohibit hdemand]
    exact .prohibition hdemand
  · have hbound := bound_of_ne_prohibit hdemand
    rw [written_of_bound hbound, Text.decimal_of_nonneg (hvalue hdemand)]
    rcases hbound with hk | hk
    · rw [hk]
      show CanonicalClause k (k.token.toList ++ '>' :: '=' :: Text.decimalNat v.natAbs)
      refine .atLeast hk hnumeral (fun hzero => hon ?_) hshort
      -- the numeral of zero would be written for the value that switches the bound off
      have hback := congrArg Text.digitsValue hzero
      rw [Text.digitsValue_decimalNat] at hback
      rw [Kind.default, hk]
      exact Int.natAbs_eq_zero.mp hback
    · rw [hk]
      show CanonicalClause k (k.token.toList ++ '<' :: '=' :: Text.decimalNat v.natAbs)
      exact .atMost hk hnumeral hshort

/-! ### Canonical specifications and canonical texts -/

/-- A policy that has exactly the values of some canonical clauses, found clause by clause. No kind
occurs twice, so no clause overrides another one. -/
theorem exists_policy_of_clauses {clauses : List (Kind × List Char)}
    (hnodup : (clauses.map Prod.fst).Nodup) (hclauses : ∀ c ∈ clauses, CanonicalClause c.1 c.2) :
    ∃ p : Policy, p.Short ∧ p.InRange ∧
      (∀ k, p.enabled k = true ↔ k ∈ clauses.map Prod.fst) ∧
      ∀ c ∈ clauses, c.1.written (p.get c.1) = c.2 := by
  induction clauses with
  | nil => exact ⟨.empty, nofun, ⟨nofun, by decide⟩, fun k => by cases k <;> decide, nofun⟩
  | cons c clauses ih =>
    obtain ⟨hclause, hclauses⟩ := List.forall_mem_cons.mp hclauses
    rw [List.map_cons, List.nodup_cons] at hnodup
    obtain ⟨p, hshort, hrange, henabled, hwritten⟩ := ih hnodup.2 hclauses
    obtain ⟨v, hv, hon, hlen, hclause⟩ := hclause.exists_value
    refine ⟨p.set c.1 v, hshort.set hlen, hrange.set hv, fun k => ?_, fun d hd => ?_⟩
    · rw [List.map_cons, List.mem_cons, ← henabled, Policy.enabled_iff]
      by_cases hk : k = c.1
      · rw [hk, Policy.get_set_self]
        exact iff_of_true hon (.inl rfl)
      · rw [Policy.get_set_of_ne p hk, or_iff_right hk, Policy.enabled_iff]
    · rcases List.mem_cons.mp hd with rfl | hd
      · rw [Policy.get_set_self, hclause]
      · -- the kind of another clause is another kind
        have hne : d.1 ≠ c.1 := fun heq => hnodup.1 (heq ▸ List.mem_map_of_mem hd)
        rw [Policy.get_set_of_ne p hne]
        exact hwritten d hd

/-- **A canonical specification is the canonical text of a policy.** The policy has the values that
stand in the clauses. -/
theorem Canonical.exists_policy {text : List Char} (h : Canonical text) :
    ∃ p : Policy, p.Short ∧ p.InRange ∧ p.canonical = text := by
  obtain ⟨clauses, hordered, hclauses, rfl⟩ := h
  obtain ⟨p, hshort, hrange, henabled, hwritten⟩ :=
    exists_policy_of_clauses hordered.nodup hclauses
  refine ⟨p, hshort, hrange, congrArg [' '].intercalate ?_⟩
  rw [Policy.clauses_eq, filter_all_of_pairwise hordered henabled, List.map_map]
  exact List.map_congr_left hwritten

/-- **The canonical text of a policy with short values in range is canonical.** -/
theorem canonical_canonical {p : Policy} (hshort : p.Short) (hrange : p.InRange) :
    Canonical p.canonical := by
  refine ⟨(Kind.all.filter p.enabled).map fun k => (k, k.written (p.get k)), ?_, fun c hc => ?_, ?_⟩
  · rw [List.map_map]
    exact (List.map_id' (Kind.all.filter p.enabled)).symm ▸ pairwise_all.filter p.enabled
  · obtain ⟨k, hk, rfl⟩ := List.mem_map.mp hc
    have hon := (List.mem_filter.mp hk).2
    exact canonicalClause_written (Policy.enabled_iff.mp hon)
      (fun hbound => hrange.get_nonneg hbound hon) (hshort k _ (Policy.stored_of_enabled hon))
  · rw [Policy.canonical, Policy.clauses_eq, List.map_map]
    rfl

/-- **The texts that stay as they are.** A text is accepted and is its own canonical text exactly if
it is canonical; whatever text is accepted, its canonical text is canonical. -/
theorem text_eq_iff_canonical (s : String) :
    ((∃ p, Policy.ofSpecification s = .ok p ∧ p.text = s) ↔ Canonical s.toList) ∧
      ∀ p, Policy.ofSpecification s = .ok p → Canonical p.text.toList := by
  have hcanonical {p : Policy} (h : Policy.ofSpecification s = .ok p) :
      Canonical p.text.toList := by
    rw [toList_text]
    exact canonical_canonical (short_of_ofSpecification h) (inRange_of_ofSpecification h)
  refine ⟨⟨?_, fun h => ?_⟩, fun p h => hcanonical h⟩
  · -- the canonical text of what was read is canonical, and it is the text itself
    rintro ⟨p, hp, htext⟩
    have := hcanonical hp
    rwa [htext] at this
  · -- a canonical text is that of some policy, and reading it restores that policy so far that it
    -- is written in the same way
    obtain ⟨p, hshort, hrange, hp⟩ := h.exists_policy
    have htext : p.text = s := by
      rw [Policy.text, hp, String.ofList_toList]
    refine ⟨p.restored, ?_, ?_⟩
    · rw [← htext]
      exact (ofSpecification_text_eq_ok_iff hshort).mpr ⟨hrange, rfl⟩
    · rw [Policy.text, Policy.canonical_restored]
      exact htext

/-- Order, repetition, case, white space and leading zeros are gone from the canonical text. -/
theorem text_eq_iff_canonical_of_untidy :
    ∃ p, Policy.ofSpecification "\tdigit>=01 LENGTH>=8!User digit >= 2 " = .ok p ∧
      Canonical p.text.toList ∧ p.text = "length>=8 digit>=2 !user" := by
  have hsome : (Policy.ofSpecification "\tdigit>=01 LENGTH>=8!User digit >= 2 ").map Policy.text =
      .ok "length>=8 digit>=2 !user" := by decide +kernel
  obtain ⟨p, hp, htext⟩ := exists_ok_of_map hsome
  exact ⟨p, hp, (text_eq_iff_canonical _).2 p hp, htext⟩

end PasswordPolicy.Specification
