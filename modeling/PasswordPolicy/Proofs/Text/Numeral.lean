import Mathlib.Algebra.Group.Nat.Defs
import Mathlib.Data.List.Basic
import Mathlib.Data.List.Induction
import PasswordPolicy.Text.Decimal

/-!
# Numerals

A run of digits without leading zeros is a numeral. Every number has exactly one, the one that
`decimalNat` writes. Reading a run of digits and writing the number again drops the leading zeros,
so the text never gets longer.

* **`numeral_decimalNat`**, **`Numeral.decimalNat_digitsValue`**: the numerals are the texts that
  `decimalNat` writes.
* **`decimal_injective`**: integers that are written alike are equal.
* **`length_decimalNat_digitsValue_le`**: a number that was read is written with as many digits at
  most.
-/

namespace PasswordPolicy.Text

/-- A number in decimal without leading zeros. -/
structure Numeral (digits : List Char) : Prop where
  ne_nil : digits ≠ []
  isDigit : ∀ c ∈ digits, c.isDigit = true
  noLeadingZero : digits.head? = some '0' → digits = ['0']

/-! ### Single digits -/

/-- A digit is the character of its value, and its value is below ten. -/
theorem digitChar_value {c : Char} (h : c.isDigit = true) :
    c.toNat - 48 < 10 ∧ Nat.digitChar (c.toNat - 48) = c := by
  obtain ⟨hlow, hhigh⟩ := Char.isDigit_iff_toNat.mp h
  have hlow : 48 ≤ c.toNat := hlow
  have hhigh : c.toNat ≤ 57 := hhigh
  have hlt : c.toNat - 48 < 10 := by omega
  refine ⟨hlt, ?_⟩
  -- the ten digits are computed
  have hall : ∀ n < 10, Nat.digitChar n = Char.ofNat (n + 48) := by decide
  rw [hall _ hlt, show c.toNat - 48 + 48 = c.toNat by omega, Char.ofNat_toNat]

/-- A further digit behind a number counts once, and the number before it ten times. -/
theorem digitsValue_concat (digits : List Char) (c : Char) :
    digitsValue (digits ++ [c]) = 10 * digitsValue digits + (c.toNat - 48) := by
  unfold digitsValue
  rw [Nat.ofDigitChars_append, Nat.ofDigitChars_cons, Nat.ofDigitChars_nil]
  rfl

/-! ### Writing -/

/-- A number from ten on is written as its tenth and its last digit, -/
theorem decimalNat_of_ge {n : Nat} (h : 10 ≤ n) :
    decimalNat n = decimalNat (n / 10) ++ [Nat.digitChar (n % 10)] :=
  Nat.toDigits_of_base_le (by decide) h

/-- and a smaller one as a single digit. -/
theorem decimalNat_of_lt {n : Nat} (h : n < 10) : decimalNat n = [Nat.digitChar n] :=
  Nat.toDigits_of_lt_base h

theorem decimal_of_nonneg {i : Int} (h : 0 ≤ i) : decimal i = decimalNat i.natAbs :=
  if_neg (Int.not_lt.mpr h)

/-- A natural number is told by its digits, which can be read again. -/
theorem decimalNat_injective {m n : Nat} (h : decimalNat m = decimalNat n) : m = n := by
  rw [← digitsValue_decimalNat m, h, digitsValue_decimalNat]

theorem minus_notMem_decimalNat (n : Nat) : '-' ∉ decimalNat n := fun h =>
  absurd (isDigit_of_mem_decimalNat h) (by decide)

/-- **An integer is told by its decimal**: no number is written with the sign of a negative one. -/
theorem decimal_injective {i j : Int} (h : decimal i = decimal j) : i = j := by
  have hsign (m n : Nat) : '-' :: decimalNat m ≠ decimalNat n := by
    intro heq
    apply minus_notMem_decimalNat n
    rw [← heq]
    exact List.mem_cons_self
  unfold decimal at h
  -- the signs have to agree, and then the digits tell the absolute values
  by_cases hi : i < 0
  · by_cases hj : j < 0
    · rw [if_pos hi, if_pos hj] at h
      have habs := decimalNat_injective (List.cons.inj h).2
      omega
    · rw [if_pos hi, if_neg hj] at h
      exact absurd h (hsign _ _)
  · by_cases hj : j < 0
    · rw [if_neg hi, if_pos hj] at h
      exact absurd h.symm (hsign _ _)
    · rw [if_neg hi, if_neg hj] at h
      have habs := decimalNat_injective h
      omega

/-- **A written number is a numeral.** Its first digit is that of its tenth, which is not zero. The
induction is on the number, by its tenth. -/
theorem numeral_decimalNat (n : Nat) : Numeral (decimalNat n) := by
  refine ⟨decimalNat_ne_nil n, fun c hc => isDigit_of_mem_decimalNat hc, ?_⟩
  induction n using Nat.strongRecOn with
  | ind n ih =>
    intro hhead
    by_cases hlt : n < 10
    · rw [decimalNat_of_lt hlt] at hhead ⊢
      rw [Option.some.inj hhead]
    · have hge : 10 ≤ n := by omega
      have htenth : (decimalNat (n / 10)).head? = some '0' := by
        rwa [decimalNat_of_ge hge, List.head?_append_of_ne_nil _ (decimalNat_ne_nil _)] at hhead
      -- a tenth that starts with zero is zero, but the number is not below ten
      have hzero := congrArg digitsValue (ih (n / 10) (by omega) htenth)
      rw [digitsValue_decimalNat] at hzero
      have : n / 10 = 0 := hzero
      omega

/-- The first digit of a numeral with more than one digit leaves a numeral in front of the last. -/
theorem Numeral.of_concat {digits : List Char} {c : Char} (h : Numeral (digits ++ [c]))
    (hne : digits ≠ []) : Numeral digits ∧ digits ≠ ['0'] := by
  have hhead : digits.head? ≠ some '0' := by
    intro hzero
    have hall := h.noLeadingZero (by rwa [List.head?_append_of_ne_nil _ hne])
    rw [List.append_eq_singleton_iff] at hall
    rcases hall with ⟨hnil, -⟩ | ⟨-, hnil⟩
    · exact hne hnil
    · cases hnil
  refine ⟨⟨hne, fun d hd => h.isDigit d (List.mem_append_left _ hd), fun hzero => ?_⟩, ?_⟩
  · exact absurd hzero hhead
  · rintro rfl
    exact hhead rfl

/-- **A numeral is what is written for its value.** By induction from the last digit, as numbers are
written. -/
theorem Numeral.decimalNat_digitsValue {digits : List Char} (h : Numeral digits) :
    decimalNat (digitsValue digits) = digits := by
  induction digits using List.reverseRecOn with
  | nil => exact absurd rfl h.ne_nil
  | append_singleton digits c ih =>
    obtain ⟨hlt, hchar⟩ := digitChar_value (h.isDigit c (by simp))
    rw [digitsValue_concat]
    by_cases hnil : digits = []
    · subst hnil
      rw [show 10 * digitsValue [] + (c.toNat - 48) = c.toNat - 48 from Nat.zero_add _,
        decimalNat_of_lt hlt, hchar]
      rfl
    · obtain ⟨hfront, hzero⟩ := h.of_concat hnil
      have hback := ih hfront
      -- a zero in front of the last digit would not be written again
      have hpos : 0 < digitsValue digits := by
        rw [Nat.pos_iff_ne_zero]
        intro hvalue
        rw [hvalue] at hback
        exact hzero hback.symm
      have happend := Nat.toDigits_append_toDigits (b := 10) (by decide) hpos hlt
      rw [Nat.toDigits_of_lt_base hlt, hchar] at happend
      rw [decimalNat, ← happend]
      exact congrArg (· ++ [c]) hback

/-! ### Length -/

/-- A number of so many digits is below that power of ten. -/
theorem digitsValue_lt {digits : List Char} (h : ∀ c ∈ digits, c.isDigit = true) :
    digitsValue digits < 10 ^ digits.length := by
  induction digits using List.reverseRecOn with
  | nil => decide
  | append_singleton digits c ih =>
    have hlast := (digitChar_value (h c (by simp))).1
    have hfront := ih fun d hd => h d (List.mem_append_left _ hd)
    rw [digitsValue_concat, List.length_append, List.length_singleton, Nat.pow_succ]
    omega

/-- **A number that was read needs no more digits than it was read from.** -/
theorem length_decimalNat_digitsValue_le {digits : List Char} (hne : digits ≠ [])
    (h : ∀ c ∈ digits, c.isDigit = true) :
    (decimalNat (digitsValue digits)).length ≤ digits.length :=
  (Nat.length_toDigits_le_iff (by decide) (List.length_pos_iff.mpr hne)).mpr (digitsValue_lt h)

end PasswordPolicy.Text
