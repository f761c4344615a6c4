import PasswordPolicy.History

/-!
# What a scan finds

A scan stops at the first answer that is not a difference. So it finds the password if some
generation of its window has it, and every generation before that one has another password: a gap in
the history hides what is behind it.

* **`found_scan_iff`**: which generation a scan has found.
* **`found_scan_mono`**: a longer window finds what a shorter one finds.
-/

namespace PasswordPolicy

/-- A scan from some generation on finds the password exactly if there is a match in its window,
with nothing but differences before it. -/
theorem found_scanFrom_eq_true_iff (answer : Nat → Answer) (generation count : Nat) :
    (scanFrom answer generation count).found = true ↔
      ∃ i < count, answer (generation + i) = .same ∧
        ∀ j < i, answer (generation + j) = .different := by
  -- behind a difference the rest of the scan is one that starts one generation later
  induction count generalizing generation with
  | zero => simp [scanFrom]
  | succ count ih =>
    rw [scanFrom]
    cases h : answer generation with
    | same =>
      refine iff_of_true rfl ⟨0, Nat.zero_lt_succ count, h, ?_⟩
      exact fun j hj => absurd hj (Nat.not_lt_zero j)
    | missing =>
      refine iff_of_false Bool.false_ne_true ?_
      rintro ⟨i, -, hsame, hbefore⟩
      -- the generation that is missing would have to be the match, or differ before it
      cases i with
      | zero => exact absurd (h.symm.trans hsame) (by decide)
      | succ i => exact absurd (h.symm.trans (hbefore 0 (Nat.zero_lt_succ i))) (by decide)
    | different =>
      have hshift (i : Nat) : generation + 1 + i = generation + (i + 1) := by omega
      simp only [ih, hshift]
      constructor
      · rintro ⟨i, hi, hsame, hbefore⟩
        refine ⟨i + 1, Nat.succ_lt_succ hi, hsame, fun j hj => ?_⟩
        cases j with
        | zero => exact h
        | succ j => exact hbefore j (Nat.lt_of_succ_lt_succ hj)
      · rintro ⟨i, hi, hsame, hbefore⟩
        cases i with
        | zero => exact absurd (h.symm.trans hsame) (by decide)
        | succ i =>
          exact ⟨i, Nat.lt_of_succ_lt_succ hi, hsame,
            fun j hj => hbefore (j + 1) (Nat.succ_lt_succ hj)⟩

/-- **What a scan finds**: a generation in the window that is the same, with only different ones
before it. -/
theorem found_scan_iff {answer : Nat → Answer} {count : Nat} :
    (scan answer count).found = true ↔
      ∃ g < count, answer g = .same ∧ ∀ earlier < g, answer earlier = .different := by
  unfold scan
  rw [found_scanFrom_eq_true_iff]
  simp only [Nat.zero_add]

/-- **A longer window finds what a shorter one finds.** The generation that was found is in the
longer window too, with the same ones before it. -/
theorem found_scan_mono {answer : Nat → Answer} {count count' : Nat} (h : count ≤ count')
    (hfound : (scan answer count).found = true) : (scan answer count').found = true := by
  obtain ⟨g, hg, hsame, hbefore⟩ := found_scan_iff.mp hfound
  exact found_scan_iff.mpr ⟨g, Nat.lt_of_lt_of_le hg h, hsame, hbefore⟩

/-! ### Lists of earlier passwords -/

/-- A generation of a list is a match exactly if the password stands at that place, -/
theorem History.ofList_eq_same_iff {passwords : List String} {password : String} {g : Nat} :
    History.ofList passwords password g = .same ↔ passwords[g]? = some password := by
  unfold History.ofList History.answerOf
  rw [if_neg (by omega), Int.toNat_natCast]
  cases passwords[g]? with
  | none => exact iff_of_false (fun h => by cases h) (fun h => by cases h)
  | some earlier =>
    by_cases h : password = earlier
    · simp [h]
    · simp [h, Ne.symm h]

/-- and it does not differ exactly if the password stands there or the list has ended. -/
theorem History.ofList_ne_different_iff {passwords : List String} {password : String} {g : Nat} :
    History.ofList passwords password g ≠ .different ↔
      passwords[g]? = none ∨ passwords[g]? = some password := by
  unfold History.ofList History.answerOf
  rw [if_neg (by omega), Int.toNat_natCast]
  cases passwords[g]? with
  | none => simp
  | some earlier =>
    by_cases h : password = earlier
    · simp [h]
    · simp [h, Ne.symm h]

theorem mem_of_found_scan {passwords : List String} {password : String} {count : Nat}
    (h : (scan (History.ofList passwords password) count).found = true) : password ∈ passwords := by
  obtain ⟨g, -, hsame, -⟩ := found_scan_iff.mp h
  exact List.mem_of_getElem? (History.ofList_eq_same_iff.mp hsame)

end PasswordPolicy
