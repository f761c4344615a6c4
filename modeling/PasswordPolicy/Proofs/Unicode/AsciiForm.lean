import Mathlib.Tactic.ByContra
import PasswordPolicy.Proofs.Unicode.LowerCase

/-!
# Texts with an ASCII lower-case form

The full case mapping takes a character that is not ASCII to one that is not ASCII either, with two
exceptions. The Kelvin sign becomes `k`. Dotted capital I becomes `i` and a combining dot, and the
dot is not ASCII. So a text can have an ASCII lower-case form only if it holds nothing but ASCII
characters and Kelvin signs, and those are lowered one by one.

* **`le_toNat_lowerChar`**: the table has no other way into ASCII.
* **`lowerCase_eq_iff_of_ascii`**: which texts have a given ASCII lower-case form.
* **`lowerCase_eq_iff_of_not_mem_k`**: without a `k` in it, only ASCII texts have.
-/

namespace PasswordPolicy.Unicode

/-! ### The table of small letters -/

/-- The run is mapped to characters, none of them ASCII. The numbers between the two ranges are
surrogates and stand for no character. -/
def CaseRun.AvoidsAscii (run : CaseRun) : Prop :=
  128 ≤ run.target ∧ (run.target + (run.last - run.first) < 0xD800 ∨
    0xDFFF < run.target ∧ run.target + (run.last - run.first) < 0x110000)

instance (run : CaseRun) : Decidable run.AvoidsAscii := by
  unfold CaseRun.AvoidsAscii; infer_instance

/-- The image of a run that avoids ASCII holds no ASCII character. The image of a character is a
character again, as it is no surrogate. -/
theorem CaseRun.AvoidsAscii.le_toNat_image {run : CaseRun} (h : run.AvoidsAscii) {n : Nat}
    (hn : run.letters.contains n = true) : 128 ≤ (Char.ofNat (run.image n)).toNat := by
  obtain ⟨htarget, hrange⟩ := h
  have hlast : n ≤ run.last := (Run.bounds_of_contains hn).2
  have hvalid : (run.image n).isValidChar := by
    unfold Nat.isValidChar CaseRun.image
    omega
  have hcode : (Char.ofNat (run.image n)).toNat = run.image n := by
    rw [Char.ofNat, dif_pos hvalid]
    rfl
  rw [hcode]
  exact Nat.le_add_right_of_le htarget

/-- The runs of the table: the ASCII letters, the Kelvin sign, and those that stay outside ASCII. -/
theorem lowerCaseRuns_cases : ∀ run ∈ lowerCaseRuns,
    run = ⟨0x41, 0x5A, 1, 0x61⟩ ∨ run = ⟨0x212A, 0x212A, 1, 0x6B⟩ ∨ run.AvoidsAscii := by
  decide +kernel

/-- A character that is not ASCII has a small letter that is not either, but for the Kelvin sign.
The table is gone through run by run, since each run maps a range of characters. -/
theorem le_toNat_lowerChar {c : Char} (h : 128 ≤ c.toNat) (hkelvin : c ≠ '\u212a') :
    128 ≤ (lowerChar c).toNat := by
  unfold lowerChar
  cases hfind : lowerCaseRuns.find? (·.letters.contains c.toNat) with
  | none => exact h
  | some run =>
    have hcontains : run.letters.contains c.toNat = true :=
      List.find?_some (p := fun run : CaseRun => run.letters.contains c.toNat) hfind
    obtain ⟨hfirst, hlast⟩ := Run.bounds_of_contains hcontains
    rcases lowerCaseRuns_cases run (List.mem_of_find?_eq_some hfind) with rfl | rfl | havoids
    · -- the ASCII letters end before `c`
      exact absurd hlast (Nat.not_le.mpr (Nat.lt_of_lt_of_le (by decide) h))
    · -- the run of the Kelvin sign holds nothing else
      have hcode : c.toNat = ('\u212a').toNat := Nat.le_antisymm hlast hfirst
      exact absurd (Char.toNat_inj.mp hcode) hkelvin
    · exact havoids.le_toNat_image hcontains

/-! ### Characters -/

/-- The character is ASCII, or the Kelvin sign, whose small letter is. -/
def HasAsciiForm (c : Char) : Prop := c.toNat < 128 ∨ c = '\u212a'

/-- The ASCII form of a character that has one. -/
def asciiForm (c : Char) : Char := if c = '\u212a' then 'k' else c.toLower

theorem asciiForm_of_ne {c : Char} (h : c ≠ '\u212a') : asciiForm c = c.toLower := if_neg h

/-- A character with an ASCII form is lowered to it, wherever it stands. -/
theorem HasAsciiForm.lowerAt_eq {c : Char} (h : HasAsciiForm c) (before after : List Char) :
    lowerAt before c after = [asciiForm c] := by
  rcases h with hascii | rfl
  · have hkelvin : c ≠ '\u212a' := by rintro rfl; exact absurd hascii (by decide)
    rw [lowerAt_of_ascii hascii, asciiForm_of_ne hkelvin]
  · have hlower : lowerChar '\u212a' = 'k' := by decide +kernel
    rw [lowerAt, if_neg (by decide), if_neg (by decide), hlower]
    rfl

/-- Any other character leaves a character that is not ASCII, be it the dot of dotted I. -/
theorem exists_mem_lowerAt_of_not_hasAsciiForm {c : Char} (h : ¬ HasAsciiForm c)
    (before after : List Char) : ∃ d ∈ lowerAt before c after, 128 ≤ d.toNat := by
  obtain ⟨hascii, hkelvin⟩ := not_or.mp h
  unfold lowerAt
  split
  · refine ⟨_, List.mem_singleton_self _, ?_⟩
    split
    · decide
    · decide
  · split
    · exact ⟨'\u0307', by decide, by decide⟩
    · exact ⟨_, List.mem_singleton_self _, le_toNat_lowerChar (Nat.not_lt.mp hascii) hkelvin⟩

/-- Only an ASCII character has an ASCII small letter, when the letters outside ASCII are left
alone. -/
theorem toNat_lt_of_toLower {c : Char} (h : c.toLower.toNat < 128) : c.toNat < 128 := by
  by_cases hupper : c.isUpper = true
  · exact toNat_lt_of_isUpper hupper
  · rwa [toLower_of_not_isUpper hupper] at h

/-- A character whose ASCII form is in ASCII has one. -/
theorem hasAsciiForm_of_asciiForm {c : Char} (h : (asciiForm c).toNat < 128) :
    HasAsciiForm c := by
  by_cases hkelvin : c = '\u212a'
  · exact .inr hkelvin
  · rw [asciiForm_of_ne hkelvin] at h
    exact .inl (toNat_lt_of_toLower h)

/-! ### Texts -/

theorem lowerCase_of_hasAsciiForm {text : List Char} (h : ∀ c ∈ text, HasAsciiForm c) :
    lowerCase text = text.map asciiForm :=
  lowerCaseAfter_eq_map (fun c hc => (h c hc).lowerAt_eq) []

/-- A text whose lower-case form is ASCII holds no other characters, as each of them would leave
something that is not. -/
theorem hasAsciiForm_of_lowerCaseAfter {before text : List Char}
    (h : ∀ d ∈ lowerCaseAfter before text, d.toNat < 128) : ∀ c ∈ text, HasAsciiForm c := by
  induction text generalizing before with
  | nil => nofun
  | cons c text ih =>
    rw [lowerCaseAfter, List.forall_mem_append] at h
    refine List.forall_mem_cons.mpr ⟨?_, ih h.2⟩
    by_contra hform
    obtain ⟨d, hd, hlarge⟩ := exists_mem_lowerAt_of_not_hasAsciiForm hform before text
    exact absurd (h.1 d hd) (Nat.not_lt.mpr hlarge)

/-- **The texts with a given ASCII lower-case form** are those that have it character by
character. -/
theorem lowerCase_eq_iff_of_ascii {text form : List Char} (hform : ∀ d ∈ form, d.toNat < 128) :
    lowerCase text = form ↔ text.map asciiForm = form := by
  constructor
  · rintro rfl
    exact (lowerCase_of_hasAsciiForm (hasAsciiForm_of_lowerCaseAfter hform)).symm
  · rintro rfl
    exact lowerCase_of_hasAsciiForm fun c hc =>
      hasAsciiForm_of_asciiForm (hform _ (List.mem_map_of_mem hc))

/-- **No character from outside ASCII can spell a form without a `k`.** -/
theorem lowerCase_eq_iff_of_not_mem_k {text form : List Char} (hform : ∀ d ∈ form, d.toNat < 128)
    (hk : 'k' ∉ form) : lowerCase text = form ↔ text.map Char.toLower = form := by
  rw [lowerCase_eq_iff_of_ascii hform]
  constructor
  · rintro rfl
    refine List.map_congr_left fun c hc => (asciiForm_of_ne ?_).symm
    rintro rfl
    exact hk (List.mem_map.mpr ⟨_, hc, rfl⟩)
  · rintro rfl
    refine List.map_congr_left fun c hc => asciiForm_of_ne ?_
    -- the Kelvin sign has no case in ASCII and would stand in the form itself
    -- without a `k` in the form there is no Kelvin sign in the text
    rintro rfl
    exact absurd (hform _ (List.mem_map_of_mem hc)) (by decide)

end PasswordPolicy.Unicode
