import PasswordPolicy.Proofs.Specification.Malformed
import PasswordPolicy.Proofs.Specification.RoundTrip

/-!
# What a canonical text tells

No clause holds a space, so the clauses of a canonical text can be told apart. A clause tells its
kind by its first word, and the value behind the sign of a bound is told by its decimal, a minus
sign included. Only the clause of a demand leaves its value open.

* **`written_injective`**: what a clause tells.
* **`text_eq_iff`**: which policies have the same canonical text.
-/

namespace PasswordPolicy

/-! ### Single clauses -/

namespace Specification

/-- The first word of a clause is the token of its kind, behind the mark of a demand if it is
one. -/
theorem firstWord_written (k : Kind) (v : Int) : FirstWord (k.written v) k.token.toList := by
  by_cases hk : k.family = .prohibit
  · refine ⟨true, ['!'], [], .bang blank_nil blank_nil, token_word k, startsWithout_nil, ?_⟩
    rw [written_of_prohibit hk, List.append_nil]
    rfl
  · have hbound := bound_of_ne_prohibit hk
    refine ⟨false, [], _, .plain blank_nil, token_word k, ?_, written_of_bound hbound v⟩
    rcases hbound with hk | hk
    · rw [hk]
      exact startsWithout_cons.mpr (by decide)
    · rw [hk]
      exact startsWithout_cons.mpr (by decide)

/-- **A clause tells its kind, and the value of a bound.** A demand has the same clause whatever its
value is. -/
theorem written_injective {k l : Kind} {v w : Int} (h : k.written v = l.written w) :
    k = l ∧ (k.family ≠ .prohibit → v = w) := by
  have htoken : k.token.toList = l.token.toList := by
    have hfirst := firstWord_written k v
    rw [h] at hfirst
    exact hfirst.unique (firstWord_written l w)
  obtain rfl : k = l := Kind.token_injective (String.toList_inj.mp htoken)
  refine ⟨rfl, fun hk => ?_⟩
  have hbound := bound_of_ne_prohibit hk
  rw [written_of_bound hbound, written_of_bound hbound] at h
  exact Text.decimal_injective (List.append_cancel_left (List.append_cancel_left h))

/-- No clause holds a space or a control character. So the clauses can be put together with spaces
and printed line by line. -/
theorem notMem_written {c : Char} (hc : c.toNat ≤ 32) (k : Kind) (v : Int) : c ∉ k.written v := by
  -- tokens, signs and marks are fixed texts, so their characters can be looked at
  have hmarked {text : List Char} (h : (text.all fun d => 32 < d.toNat) = true) : c ∉ text := by
    intro hmem
    have hlt : 32 < c.toNat := by simpa using List.all_eq_true.mp h c hmem
    omega
  have htoken : c ∉ k.token.toList := hmarked (by cases k <;> rfl)
  have hsign : c ∉ k.family.sign.toList := hmarked (by cases k <;> rfl)
  have hbang : c ∉ ['!'] := hmarked rfl
  have hnumber : c ∉ Text.decimal v := by
    -- digits come after the space in ASCII
    have hdigits (n : Nat) : c ∉ Text.decimalNat n := by
      intro h
      have hdigit : 48 ≤ c.toNat :=
        (Char.isDigit_iff_toNat.mp (Text.isDigit_of_mem_decimalNat h)).1
      omega
    have hminus : c ∉ ['-'] := hmarked rfl
    unfold Text.decimal
    split
    · exact List.not_mem_cons_of_ne_of_not_mem (List.ne_of_not_mem_cons hminus) (hdigits _)
    · exact hdigits _
  by_cases hk : k.family = .prohibit
  · rw [written_of_prohibit hk]
    exact List.not_mem_cons_of_ne_of_not_mem (List.ne_of_not_mem_cons hbang) htoken
  · rw [written_of_bound (bound_of_ne_prohibit hk), List.mem_append, List.mem_append]
    simp only [htoken, hsign, hnumber, or_self, not_false_eq_true]

/-- Texts that are told apart by the separator between them. None of them is empty or holds the
separator. -/
theorem intercalate_injective {c : Char} {texts texts' : List (List Char)}
    (htexts : ∀ t ∈ texts, t ≠ [] ∧ c ∉ t) (htexts' : ∀ t ∈ texts', t ≠ [] ∧ c ∉ t)
    (h : [c].intercalate texts = [c].intercalate texts') : texts = texts' := by
  -- cutting at the separator gives the texts back, where there is one at least
  have hsplit {ts : List (List Char)} (hts : ∀ t ∈ ts, t ≠ [] ∧ c ∉ t) (hne : ts ≠ []) :
      ([c].intercalate ts).splitOn c = ts :=
    List.splitOn_intercalate c (fun t ht => (hts t ht).2) hne
  -- and without texts there is nothing to cut
  have hnil {ts : List (List Char)} (hts : ∀ t ∈ ts, t ≠ [] ∧ c ∉ t)
      (hts' : [c].intercalate ts = []) : ts = [] := by
    cases ts with
    | nil => rfl
    | cons t ts =>
      obtain ⟨d, hd⟩ := List.exists_mem_of_ne_nil t (hts t List.mem_cons_self).1
      have hmem : d ∈ [c].intercalate (t :: ts) := mem_intercalate List.mem_cons_self hd
      rw [hts'] at hmem
      cases hmem
  by_cases hempty : texts = []
  · subst hempty
    exact (hnil htexts' h.symm).symm
  · by_cases hempty' : texts' = []
    · subst hempty'
      exact hnil htexts h
    · rw [← hsplit htexts hempty, h, hsplit htexts' hempty']

end Specification

/-! ### The whole text -/

namespace Policy

open Specification

variable {p q : Policy} {k : Kind}

/-- The clauses of a policy are those of the kinds that are switched on, with the values that are
got. -/
theorem mem_clauses {text : List Char} :
    text ∈ p.clauses ↔ ∃ k, p.enabled k = true ∧ k.written (p.get k) = text := by
  simp [clauses_eq]

/-- The canonical text can be cut at its spaces, so it tells the clauses and their order. -/
theorem clauses_eq_of_canonical (h : p.canonical = q.canonical) : p.clauses = q.clauses := by
  have hapart (r : Policy) : ∀ t ∈ r.clauses, t ≠ [] ∧ ' ' ∉ t := by
    intro t ht
    obtain ⟨k, -, rfl⟩ := mem_clauses.mp ht
    exact ⟨k.written_ne_nil _, notMem_written (by decide) k _⟩
  exact intercalate_injective (hapart p) (hapart q) h

/-- The clause of a kind is found among those of the other policy, where no other kind can have put
it. -/
theorem enabled_of_clauses_eq (h : p.clauses = q.clauses) (hon : p.enabled k = true) :
    q.enabled k = true ∧ (k.family ≠ .prohibit → p.get k = q.get k) := by
  have hclause : k.written (p.get k) ∈ q.clauses := h ▸ mem_clauses.mpr ⟨k, hon, rfl⟩
  obtain ⟨l, hl, hwritten⟩ := mem_clauses.mp hclause
  obtain ⟨rfl, hvalue⟩ := written_injective hwritten
  exact ⟨hl, fun hk => (hvalue hk).symm⟩

theorem get_of_enabled_eq_false (h : p.enabled k = false) : p.get k = k.default := by
  by_contra hne
  rw [enabled_iff.mpr hne] at h
  cases h

/-- **Which policies have the same canonical text**: the same constraints are switched on, and every
bound has the same value. -/
theorem text_eq_iff : p.text = q.text ↔
    (∀ k, p.enabled k = q.enabled k) ∧ ∀ k, k.family ≠ .prohibit → p.get k = q.get k := by
  constructor
  · intro h
    -- equal texts are cut into equal clauses
    have hclauses : p.clauses = q.clauses := by
      apply clauses_eq_of_canonical
      rw [← toList_text, h, toList_text]
    have henabled (k : Kind) : p.enabled k = q.enabled k := by
      apply Bool.eq_iff_iff.mpr
      exact ⟨fun hon => (enabled_of_clauses_eq hclauses hon).1,
        fun hon => (enabled_of_clauses_eq hclauses.symm hon).1⟩
    refine ⟨henabled, fun k hk => ?_⟩
    -- a bound that is switched off is the default in both policies
    cases hon : p.enabled k with
    | true => exact (enabled_of_clauses_eq hclauses hon).2 hk
    | false =>
      rw [get_of_enabled_eq_false hon, get_of_enabled_eq_false ((henabled k).symm.trans hon)]
  · rintro ⟨henabled, hget⟩
    exact congrArg String.ofList (canonical_eq_of_enabled henabled hget)

end Policy

end PasswordPolicy
