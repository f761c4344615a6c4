import Mathlib.Data.List.Forall2
import Mathlib.Logic.Basic
import PasswordPolicy.Proofs.Unicode.LowerCase

/-!
# The case of ASCII letters

Texts that differ in the case of their ASCII letters only have the same form in small letters. A
class of characters that holds both cases of every letter, or neither, cuts such texts at the same
places.

* **`sameLetters_iff`**: such texts have the same form in small letters.
* **`IgnoresCase.takeWhile_lowered`**, **`IgnoresCase.dropWhile_lowered`**: cutting a text.
* **`lowerCase_lowered`**: the full case mapping gives the same for such texts.
-/

namespace PasswordPolicy.Text

/-- The text with small letters in place of its capital ASCII letters. -/
def lowered (text : List Char) : List Char := text.map Char.toLower

/-- The texts are equally long and differ in the case of ASCII letters only. -/
def SameLetters (s t : List Char) : Prop := List.Forall₂ (fun c d => c.toLower = d.toLower) s t

/-- Two texts differ in case only exactly if they have the same form in small letters. -/
theorem sameLetters_iff {s t : List Char} : SameLetters s t ↔ lowered s = lowered t := by
  unfold SameLetters lowered
  rw [← List.forall₂_map_left_iff (f := Char.toLower) (R := fun c d => c = Char.toLower d),
    ← List.forall₂_map_right_iff (f := Char.toLower) (R := Eq), List.forall₂_eq_eq_eq]

theorem SameLetters.length_eq {s t : List Char} (h : SameLetters s t) : s.length = t.length :=
  List.Forall₂.length_eq h

instance (s t : List Char) : Decidable (SameLetters s t) := decidable_of_iff _ sameLetters_iff.symm

/-! ### Classes that hold both cases -/

/-- The class holds both cases of a letter or neither. -/
def IgnoresCase (p : Char → Bool) : Prop := ∀ c, p c.toLower = p c

/-- Only ASCII characters need to be looked at: no other one is changed. -/
theorem ignoresCase_of_ascii {p : Char → Bool}
    (h : ∀ n < 128, p (Char.ofNat n).toLower = p (Char.ofNat n)) : IgnoresCase p := by
  intro c
  by_cases hc : c.isUpper = true
  · have hlt : c.toNat < 128 := Unicode.toNat_lt_of_isUpper hc
    exact Unicode.forall_ascii (P := fun c => p c.toLower = p c) h hlt
  · rw [Unicode.toLower_of_not_isUpper hc]

section Classes
variable {p : Char → Bool}

/-- What is taken of a text in small letters is what is taken of the text, in small letters, -/
theorem IgnoresCase.takeWhile_lowered (h : IgnoresCase p) (text : List Char) :
    (lowered text).takeWhile p = lowered (text.takeWhile p) := by
  rw [lowered, List.takeWhile_map, show p ∘ Char.toLower = p from funext h]
  rfl

/-- and so is what is left of it. -/
theorem IgnoresCase.dropWhile_lowered (h : IgnoresCase p) (text : List Char) :
    (lowered text).dropWhile p = lowered (text.dropWhile p) := by
  rw [lowered, List.dropWhile_map, show p ∘ Char.toLower = p from funext h]
  rfl

theorem IgnoresCase.all_lowered (h : IgnoresCase p) (text : List Char) :
    (lowered text).all p = text.all p := by
  rw [lowered, List.all_map, show p ∘ Char.toLower = p from funext h]

end Classes

/-! ### Characters without case -/

/-- Only letters come from letters. -/
theorem toLower_eq_iff {c d : Char} (hd : d.isAlpha = false) : c.toLower = d ↔ c = d := by
  constructor
  · intro h
    by_cases hc : c.isUpper = true
    · have halpha : c.toLower.isAlpha = true :=
        Unicode.forall_ascii (P := fun c => c.isUpper = true → c.toLower.isAlpha = true)
          (by decide) (Unicode.toNat_lt_of_isUpper hc) hc
      rw [h, hd] at halpha
      cases halpha
    · rwa [Unicode.toLower_of_not_isUpper hc] at h
  · rintro rfl
    refine Unicode.toLower_of_not_isUpper fun hupper => ?_
    have halpha : (c.isUpper || c.isLower) = false := hd
    rw [hupper] at halpha
    cases halpha

/-- A text without letters is the small form of no text but itself. -/
theorem lowered_eq_iff {text signs : List Char} (hsigns : ∀ c ∈ signs, c.isAlpha = false) :
    lowered text = signs ↔ text = signs := by
  induction signs generalizing text with
  | nil => exact List.map_eq_nil_iff
  | cons d signs ih =>
    obtain ⟨hd, hsigns⟩ := List.forall_mem_cons.mp hsigns
    cases text with
    | nil => exact iff_of_false nofun nofun
    | cons c text =>
      rw [lowered, List.map_cons, List.cons_eq_cons, List.cons_eq_cons, toLower_eq_iff hd]
      exact and_congr_right fun _ => ih hsigns

/-! ### The full case mapping

A sigma asks its neighbours only whether they are passed over and whether they are cased, and both
cases of an ASCII letter give the same answers. -/

section Lower
open Unicode

theorem toNat_toLower_lt {c : Char} (h : c.toNat < 128) : c.toLower.toNat < 128 :=
  forall_ascii (P := fun c => c.toLower.toNat < 128) (by decide) h

/-- Of a table only the runs that hold ASCII characters need to be looked at. -/
theorem ignoresCase_inRuns {runs : List Run} (k : Nat)
    (hrest : ∀ run ∈ runs.drop k, 128 ≤ run.first)
    (h : ∀ n < 128, inRuns (runs.take k) (Char.ofNat n).toLower =
      inRuns (runs.take k) (Char.ofNat n)) : IgnoresCase (inRuns runs) := by
  intro c
  by_cases hc : c.isUpper = true
  · have hlt : c.toNat < 128 := toNat_lt_of_isUpper hc
    rw [inRuns_of_ascii hrest (toNat_toLower_lt hlt), inRuns_of_ascii hrest hlt]
    exact ignoresCase_of_ascii h c
  · rw [toLower_of_not_isUpper hc]

/-- A character has case in both cases or in neither, -/
theorem ignoresCase_isCased : IgnoresCase isCased :=
  ignoresCase_inRuns 2 (by decide +kernel) (by decide)

/-- and it is passed over in both or in neither. The ASCII part of each table is computed, the rest
is not touched by small letters. -/
theorem ignoresCase_isCaseIgnorable : IgnoresCase isCaseIgnorable :=
  ignoresCase_inRuns 4 (by decide +kernel) (by decide)

/-- So what a sigma finds when it looks at its neighbours does not depend on their case. -/
theorem meetsCased_lowered (text : List Char) : meetsCased (lowered text) = meetsCased text := by
  unfold meetsCased
  rw [ignoresCase_isCaseIgnorable.dropWhile_lowered]
  cases text.dropWhile isCaseIgnorable with
  | nil => rfl
  | cons c rest => exact ignoresCase_isCased c

/-- A capital ASCII letter and its small letter have the same small letter. -/
theorem lowerChar_toLower (c : Char) : lowerChar c.toLower = lowerChar c := by
  by_cases hc : c.isUpper = true
  · have hlt : c.toNat < 128 := toNat_lt_of_isUpper hc
    rw [lowerChar_of_ascii (toNat_toLower_lt hlt), lowerChar_of_ascii hlt]
    exact forall_ascii (P := fun c => c.toLower.toLower = c.toLower) (by decide) hlt
  · rw [toLower_of_not_isUpper hc]

/-- A character has the same lower-case form whether it and its neighbours stand in small letters or
not. -/
theorem lowerAt_lowered (before : List Char) (c : Char) (after : List Char) :
    lowerAt (lowered before) c.toLower (lowered after) = lowerAt before c after := by
  -- the two characters that need more than the table are no ASCII letters
  have hsigma : c.toLower = '\u03a3' ↔ c = '\u03a3' := toLower_eq_iff (by decide)
  have hdotted : c.toLower = '\u0130' ↔ c = '\u0130' := toLower_eq_iff (by decide)
  unfold lowerAt endsWord
  rw [meetsCased_lowered, meetsCased_lowered, lowerChar_toLower]
  exact if_congr hsigma rfl (if_congr hdotted rfl rfl)

/-- The same for a text behind some other text. -/
theorem lowerCaseAfter_lowered (before text : List Char) :
    lowerCaseAfter (lowered before) (lowered text) = lowerCaseAfter before text := by
  induction text generalizing before with
  | nil => rfl
  | cons c text ih =>
    rw [lowerCaseAfter, ← ih (c :: before), ← lowerAt_lowered]
    rfl

/-- **The case of ASCII letters is lost in the lower-case form**, whatever stands around them. -/
theorem lowerCase_lowered (text : List Char) : lowerCase (lowered text) = lowerCase text :=
  lowerCaseAfter_lowered [] text

/-- Texts that differ in the case of ASCII letters only have the same lower-case form. -/
theorem SameLetters.lowerCase_eq {s t : List Char} (h : SameLetters s t) :
    lowerCase s = lowerCase t := by
  rw [← lowerCase_lowered s, sameLetters_iff.mp h, lowerCase_lowered]

end Lower

end PasswordPolicy.Text
