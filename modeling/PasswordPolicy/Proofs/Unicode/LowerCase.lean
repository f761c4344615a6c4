import PasswordPolicy.Unicode.LetterCase

/-!
# Lower case of ASCII text

The full case mapping looks at the neighbours of a character and may make two characters of one.
On ASCII text it does neither: there it is the map that takes every capital letter to its small
one.

* **`inRuns_of_ascii`**: which runs hold an ASCII character.
* **`lowerCase_of_ascii`**: the lower-case form of an ASCII text, character by character.
-/

namespace PasswordPolicy.Unicode

/-- What holds of each ASCII character can be computed. -/
theorem forall_ascii {P : Char → Prop} (h : ∀ n < 128, P (Char.ofNat n)) {c : Char}
    (hc : c.toNat < 128) : P c := by
  have hn := h c.toNat hc
  rwa [Char.ofNat_toNat] at hn

theorem toNat_lt_of_isUpper {c : Char} (h : c.isUpper = true) : c.toNat < 128 := by
  have hbounds : 65 ≤ c.val ∧ c.val ≤ 90 := of_decide_eq_true h
  exact Nat.lt_of_le_of_lt (UInt32.le_iff_toNat_le.mp hbounds.2) (by decide)

theorem toLower_of_not_isUpper {c : Char} (h : ¬ c.isUpper = true) : c.toLower = c :=
  dif_neg fun hrange => h (decide_eq_true hrange)

/-- A run holds nothing outside its bounds, -/
theorem Run.bounds_of_contains {run : Run} {n : Nat} (h : run.contains n = true) :
    run.first ≤ n ∧ n ≤ run.last := by
  simp only [Run.contains, Bool.and_eq_true, decide_eq_true_eq] at h
  exact h.1

/-- in particular nothing before its first character. -/
theorem Run.not_contains_of_lt {run : Run} {n : Nat} (h : n < run.first) :
    ¬ run.contains n = true :=
  fun hcontains => Nat.not_le.mpr h (Run.bounds_of_contains hcontains).1

/-- Runs that start behind the ASCII characters need not be looked at. -/
theorem inRuns_of_ascii {runs : List Run} {k : Nat}
    (hrest : ∀ run ∈ runs.drop k, 128 ≤ run.first) {c : Char} (hc : c.toNat < 128) :
    inRuns runs c = inRuns (runs.take k) c := by
  have hothers : inRuns (runs.drop k) c = false := List.any_eq_false.mpr fun run hrun =>
    Run.not_contains_of_lt (Nat.lt_of_lt_of_le hc (hrest run hrun))
  calc inRuns runs c = inRuns (runs.take k ++ runs.drop k) c := by rw [List.take_append_drop]
    _ = (inRuns (runs.take k) c || inRuns (runs.drop k) c) := List.any_append
    _ = inRuns (runs.take k) c := by rw [hothers, Bool.or_false]

/-- Only the first run of the table holds ASCII letters. -/
theorem find?_lowerCaseRuns_of_ascii {n : Nat} (h : n < 128) :
    lowerCaseRuns.find? (·.letters.contains n) =
      (lowerCaseRuns.take 1).find? (·.letters.contains n) := by
  have hfirst : ∀ run ∈ lowerCaseRuns.drop 1, 128 ≤ run.first := by decide +kernel
  have hothers : (lowerCaseRuns.drop 1).find? (·.letters.contains n) = none :=
    List.find?_eq_none.mpr fun run hrun =>
      Run.not_contains_of_lt (Nat.lt_of_lt_of_le h (hfirst run hrun))
  calc lowerCaseRuns.find? (·.letters.contains n)
      = (lowerCaseRuns.take 1 ++ lowerCaseRuns.drop 1).find? (·.letters.contains n) := by
        rw [List.take_append_drop]
    _ = (lowerCaseRuns.take 1).find? (·.letters.contains n) := by
        rw [List.find?_append, hothers, Option.or_none]

theorem lowerChar_of_ascii {c : Char} (h : c.toNat < 128) : lowerChar c = c.toLower := by
  rw [lowerChar, find?_lowerCaseRuns_of_ascii h]
  revert c
  exact @forall_ascii _ (by decide +kernel)

/-- An ASCII character is lowered on its own, whatever stands around it. -/
theorem lowerAt_of_ascii {c : Char} (h : c.toNat < 128) (before after : List Char) :
    lowerAt before c after = [c.toLower] := by
  -- the two characters that need more than the table are not ASCII
  have hsigma : c ≠ '\u03a3' := by rintro rfl; exact absurd h (by decide)
  have hdotted : c ≠ '\u0130' := by rintro rfl; exact absurd h (by decide)
  rw [lowerAt, if_neg hsigma, if_neg hdotted, lowerChar_of_ascii h]

/-- Characters that are lowered to one character each, whatever stands around them. -/
theorem lowerCaseAfter_eq_map {f : Char → Char} {text : List Char}
    (h : ∀ c ∈ text, ∀ before after, lowerAt before c after = [f c]) (before : List Char) :
    lowerCaseAfter before text = text.map f := by
  induction text generalizing before with
  | nil => rfl
  | cons c text ih =>
    rw [lowerCaseAfter, h c List.mem_cons_self, ih fun d hd => h d (List.mem_cons_of_mem c hd)]
    rfl

/-- **ASCII text is lowered character by character.** -/
theorem lowerCase_of_ascii {text : List Char} (h : ∀ c ∈ text, c.toNat < 128) :
    lowerCase text = text.map Char.toLower :=
  lowerCaseAfter_eq_map (fun c hc => lowerAt_of_ascii (h c hc)) []

end PasswordPolicy.Unicode
