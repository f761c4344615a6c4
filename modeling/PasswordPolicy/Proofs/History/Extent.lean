import Mathlib.Data.List.Basic
import Mathlib.Data.Nat.Init
import Mathlib.Order.Bounds.Basic
import PasswordPolicy.Proofs.History.Scan

/-!
# How far a scan goes

A scan asks for the generations one after the other, from the newest on. It asks for those that
differ in a row and for the one behind them, unless its window ends before. So how many generations
it asks for says which ones they are, and the answer for the last one says whether it has found the
password.

* **`lt_length_asked_scan_iff`**: which generations are asked for.
* **`length_asked_scan_of_isLeast`**, **`length_asked_scan_of_forall`**: how many they are.
* **`found_scan_iff_last`**: what the last answer says.
* **`length_asked_scan_ofList`**, **`found_scan_ofList_iff`**: scans of a list of earlier passwords.
-/

namespace PasswordPolicy

variable {answer : Nat → Answer} {count : Nat}

/-- A scan that starts at some generation gets to the one that is `i` further on exactly if that is
in the window and all generations in between differ. -/
theorem lt_length_asked_scanFrom_iff (answer : Nat → Answer) (generation count i : Nat) :
    i < (scanFrom answer generation count).asked.length ↔
      i < count ∧ ∀ j < i, answer (generation + j) = .different := by
  -- what follows a difference is a scan that starts one generation later
  induction count generalizing generation i with
  | zero => simp [scanFrom]
  | succ count ih =>
    rw [scanFrom]
    cases i with
    | zero => cases answer generation <;> simp
    | succ i =>
      have hshift (j : Nat) : generation + 1 + j = generation + (j + 1) := by omega
      rw [Nat.forall_lt_succ_left, Nat.add_zero]
      cases h : answer generation with
      | same => simp
      | missing => simp
      | different =>
        rw [List.length_cons, Nat.succ_lt_succ_iff, Nat.succ_lt_succ_iff, ih]
        simp only [hshift, true_and]

/-- **Which generations are asked for**: those of the window with only differences before them. A
scan goes on as long as the answer is that the generation differs. -/
theorem lt_length_asked_scan_iff {g : Nat} :
    g < (scan answer count).asked.length ↔
      g < count ∧ ∀ earlier < g, answer earlier = .different := by
  unfold scan
  rw [lt_length_asked_scanFrom_iff]
  simp only [Nat.zero_add]

/-- The generations are asked for in order, each once. -/
theorem asked_scan (answer : Nat → Answer) (count : Nat) :
    (scan answer count).asked = List.range (scan answer count).asked.length := by
  rw [List.range_eq_range']
  exact asked_scanFrom answer 0 count

/-- A scan goes as far as the first generation that does not differ, if its window does. -/
theorem length_asked_scan_of_isLeast {first : Nat} (h : IsLeast {g | answer g ≠ .different} first) :
    (scan answer count).asked.length = min count (first + 1) := by
  obtain ⟨hfirst, hleast⟩ := h
  refine eq_of_forall_lt_iff fun g => ?_
  rw [lt_length_asked_scan_iff, Nat.lt_min, Nat.lt_succ_iff]
  refine and_congr_right fun _ => ⟨fun hdifferent => ?_, fun hg earlier hearlier => ?_⟩
  · -- a generation behind the first one is not asked for
    by_contra hbehind
    exact hfirst (hdifferent first (Nat.lt_of_not_le hbehind))
  · by_contra hother
    exact absurd (hleast hother) (Nat.not_le_of_lt (Nat.lt_of_lt_of_le hearlier hg))

/-- If all generations differ, the scan goes as far as its window. -/
theorem length_asked_scan_of_forall (h : ∀ g, answer g = .different) :
    (scan answer count).asked.length = count := by
  refine eq_of_forall_lt_iff fun g => ?_
  rw [lt_length_asked_scan_iff]
  exact and_iff_left fun earlier _ => h earlier

/-- **What the last answer says**: the password is found if it is a match. All answers before the
last one are differences, so only the last one can be a match. -/
theorem found_scan_iff_last : (scan answer count).found = true ↔
    0 < (scan answer count).asked.length ∧
      answer ((scan answer count).asked.length - 1) = .same := by
  have hfound : (scan answer count).found = true ↔
      ∃ g, (scan answer count).asked.getLast? = some g ∧ answer g = .same :=
    found_scanFrom_iff answer 0 count
  rw [hfound, asked_scan, List.getLast?_range, List.length_range]
  by_cases hnone : (scan answer count).asked.length = 0
  · simp [hnone]
  · simp [hnone, Nat.pos_of_ne_zero hnone]

/-! ### Lists of earlier passwords

The first password of a list that does not differ is the first occurrence of the one in question, or
else the end of the list. -/

section Lists
variable {passwords : List String} {password : String}

/-- An earlier password in the window is among the first ones of the list. -/
theorem mem_take_of_getElem? {g : Nat} (hg : g < count) (h : passwords[g]? = some password) :
    password ∈ passwords.take count := by
  refine List.mem_of_getElem? (i := g) ?_
  rwa [List.getElem?_take_of_lt hg]

/-- The first generation of a list that does not differ is that of the first occurrence of the
password, or the first one behind the list if there is none. -/
theorem History.isLeast_idxOf (passwords : List String) (password : String) :
    IsLeast {g | History.ofList passwords password g ≠ .different} (passwords.idxOf password) := by
  constructor
  · refine History.ofList_ne_different_iff.mpr ?_
    by_cases hmem : password ∈ passwords
    · exact .inr (List.getElem?_idxOf hmem)
    · rw [List.idxOf_eq_length hmem]
      exact .inl (List.getElem?_eq_none (Nat.le_refl _))
  · -- no generation before the first occurrence is at the end or a match
    intro g hg
    rcases History.ofList_ne_different_iff.mp hg with hend | hsame
    · exact Nat.le_trans List.idxOf_le_length (List.getElem?_eq_none_iff.mp hend)
    · have hmem := mem_take_of_getElem? (Nat.lt_succ_self g) hsame
      exact Nat.lt_succ_iff.mp ((List.mem_take_iff_idxOf_lt (List.mem_of_mem_take hmem)).mp hmem)

/-- A scan of a list ends at the first occurrence of the password, or behind the list. -/
theorem length_asked_scan_ofList : (scan (History.ofList passwords password) count).asked.length =
    min count (passwords.idxOf password + 1) :=
  length_asked_scan_of_isLeast (History.isLeast_idxOf passwords password)

/-- **What a scan of a list finds** is any password within its window. A list has no gap, so the
scan gets as far as the password. -/
theorem found_scan_ofList_iff : (scan (History.ofList passwords password) count).found = true ↔
    password ∈ passwords.take count := by
  rw [found_scan_iff]
  constructor
  · rintro ⟨g, hg, hsame, -⟩
    exact mem_take_of_getElem? hg (History.ofList_eq_same_iff.mp hsame)
  · intro hmem
    have hin := List.mem_of_mem_take hmem
    refine ⟨passwords.idxOf password, (List.mem_take_iff_idxOf_lt hin).mp hmem,
      History.ofList_eq_same_iff.mpr (List.getElem?_idxOf hin), fun earlier hearlier => ?_⟩
    -- what does not differ is not before the first occurrence
    by_contra hother
    exact absurd ((History.isLeast_idxOf passwords password).2 hother) (Nat.not_le_of_lt hearlier)

end Lists

end PasswordPolicy
