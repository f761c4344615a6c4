import Mathlib.Data.Finset.Dedup
import Mathlib.Data.Finset.Order
import PasswordPolicy.Proofs.Evaluation.Breaks
import PasswordPolicy.Proofs.Unicode.Context

/-!
# Acceptable passwords

Whatever a policy demands, there is a password that meets it: one that has more characters of every
class than any limit asks for, is longer than every earlier password, and does not hold the
character that the user name begins with. Two alphabets that have no letter in common, whatever its
case, are enough for the last. Only the empty user name cannot be kept out of any password.

* **`breaks_filler`**, **`exists_not_infix_filler`**: a long filler breaks no constraint.
* **`exists_violations_eq_nil_iff`**: when a policy can be met.
-/

namespace PasswordPolicy

/-! ### Fillers -/

/-- One character of each class that a policy can ask for. -/
def alphabet (second : Bool) : List Char :=
  if second then ['B', 'b', '1', '#'] else ['A', 'a', '0', '!']

/-- Every character of an alphabet so many times. -/
def filler (second : Bool) (n : Nat) : List Char := (alphabet second).flatMap (List.replicate n)

variable {second : Bool} {n : Nat}

/-- Alphabets are ASCII, so their letters are lowered one by one. -/
theorem toNat_lt_of_mem_alphabet {c : Char} (h : c ∈ alphabet second) : c.toNat < 128 := by
  have hall : (alphabet second).all (·.toNat < 128) = true := by cases second <;> rfl
  simpa using List.all_eq_true.mp hall c h

/-- A filler holds nothing but the characters of its alphabet. -/
theorem mem_alphabet_of_mem_filler {c : Char} (h : c ∈ filler second n) : c ∈ alphabet second := by
  obtain ⟨d, hd, hc⟩ := List.mem_flatMap.mp h
  exact List.eq_of_mem_replicate hc ▸ hd

/-- Whatever is counted, a filler has so many times what the alphabet has. So a filler is long
enough for any limit, and has enough characters of each class. -/
theorem countP_filler (p : Char → Bool) :
    (filler second n).countP p = n * (alphabet second).countP p := by
  unfold filler
  induction alphabet second with
  | nil => rfl
  | cons c text ih =>
    rw [List.flatMap_cons, List.countP_append, ih, List.countP_replicate, List.countP_cons,
      Nat.mul_add, Nat.add_comm]
    split
    · rw [Nat.mul_one]
    · rw [Nat.mul_zero]

/-- A filler has as many characters of each class as every letter is repeated, because each alphabet
has one of every class that can be asked for. -/
theorem count_filler {cls : CharClass} (hcls : cls ∈ [CharClass.upper, .lower, .digit, .special]) :
    cls.count (filler second n) = n := by
  have hone : cls.count (alphabet second) = 1 := by
    revert cls
    cases second <;> decide +kernel
  unfold CharClass.count at hone ⊢
  rw [countP_filler, hone, Nat.mul_one]

/-- So it is at least as long. -/
theorem le_length_filler (second : Bool) (n : Nat) : n ≤ (filler second n).length :=
  calc n = CharClass.upper.count (filler second n) := (count_filler (by decide)).symm
    _ ≤ (filler second n).length := List.countP_le_length

/-- A filler that is long enough breaks no constraint but that on the user name: there is enough of
everything, and it is longer than all earlier passwords. -/
theorem breaks_filler {k : Kind} {limit : Int} {user : Option String} {history : List String}
    (hk : k ≠ .user) (hlimit : limit ≤ n) (hhistory : ∀ earlier ∈ history, earlier.length < n) :
    Attempt.breaks ⟨String.ofList (filler second n), user, some (History.ofList history)⟩ limit k =
      false := by
  rw [Bool.eq_false_iff]
  intro hbreaks
  have hchars : (String.ofList (filler second n)).toList = filler second n := String.toList_ofList
  cases k with
  | user => exact hk rfl
  | age => cases hbreaks
  | reuse =>
    -- the filler is longer than the earlier password that it would have to be
    obtain ⟨_, ⟨⟩, hfound⟩ := Attempt.breaks_reuse_iff.mp hbreaks
    have hshort := hhistory _ (mem_of_found_scan hfound)
    rw [String.length_ofList] at hshort
    exact absurd (le_length_filler second n) (Nat.not_le_of_lt hshort)
  | length =>
    have hlt := (Attempt.breaks_iff_of_amount? rfl).mp hbreaks
    rw [Attempt.chars, hchars] at hlt
    have := le_length_filler second n
    omega
  -- the four classes are counted in the same way
  | _ =>
    have hlt := (Attempt.breaks_iff_of_amount? rfl).mp hbreaks
    rw [Attempt.chars, hchars, count_filler (by decide)] at hlt
    omega

/-! ### Keeping a user name out -/

/-- No character is in both of the alphabets, not even in another case. -/
theorem exists_not_mem_alphabet (c : Char) : ∃ second, c ∉ (alphabet second).map Char.toLower := by
  by_cases h : c ∈ (alphabet false).map Char.toLower
  · have hfirst : c = 'a' ∨ c = '0' ∨ c = '!' := by simpa [alphabet] using h
    refine ⟨true, ?_⟩
    rcases hfirst with rfl | rfl | rfl <;> decide
  · exact ⟨false, h⟩

/-- A user name is kept out of all fillers of one alphabet: the one that lacks the first character
of its lower-case form. -/
theorem exists_not_infix_filler {user : List Char} (hne : user ≠ []) :
    ∃ second, ∀ n, ¬ Unicode.lowerCase user <:+: Unicode.lowerCase (filler second n) := by
  cases hlower : Unicode.lowerCase user with
  | nil => exact absurd hlower (Unicode.lowerCase_ne_nil hne)
  | cons c rest =>
    -- the first character of the name is foreign to one of the alphabets
    obtain ⟨second, hsecond⟩ := exists_not_mem_alphabet c
    refine ⟨second, fun n hoccurs => hsecond ?_⟩
    rw [Unicode.lowerCase_of_ascii fun d hd =>
      toNat_lt_of_mem_alphabet (mem_alphabet_of_mem_filler hd)] at hoccurs
    obtain ⟨d, hd, rfl⟩ := List.mem_map.mp (hoccurs.subset List.mem_cons_self)
    exact List.mem_map_of_mem (mem_alphabet_of_mem_filler hd)

/-- One of the alphabets serves for every user, given or not, unless the name is empty. Two
alphabets have no letter in common, so a name that is in the one filler is not in the other. -/
theorem exists_filler_without (user : Option String) (n : Nat) :
    ∃ second, ∀ name, user = some name → name ≠ "" →
      ¬ Unicode.lowerCase name.toList <:+: Unicode.lowerCase (filler second n) := by
  cases user with
  | none => exact ⟨false, nofun⟩
  | some name =>
    by_cases hname : name = ""
    · refine ⟨false, ?_⟩
      rintro _ ⟨⟩ hne
      exact absurd hname hne
    · have hne : name.toList ≠ [] := by simpa using hname
      obtain ⟨second, hsecond⟩ := exists_not_infix_filler hne
      refine ⟨second, ?_⟩
      rintro _ ⟨⟩ -
      exact hsecond n

/-! ### Meeting a policy -/

/-- The empty user name is found in every password. -/
theorem user_mem_violations_of_empty {p : Policy} (hon : p.enabled .user = true)
    (password : String) (history : Option History) :
    Kind.user ∈ p.violations ⟨password, some "", history⟩ := by
  refine Policy.mem_violations.mpr ⟨hon, Attempt.breaks_user_iff.mpr ⟨"", rfl, ?_⟩⟩
  exact List.nil_infix

/-- There is a number that no limit and no length of an earlier password comes up to. -/
theorem exists_bound (p : Policy) (history : List String) :
    ∃ n : Nat, (∀ k, p.get k ≤ n) ∧ ∀ earlier ∈ history, earlier.length < n := by
  obtain ⟨m, hm⟩ := Finset.exists_le
    (Kind.all.map (fun k => (p.get k).toNat) ++ history.map String.length).toFinset
  simp only [List.mem_toFinset, List.mem_append] at hm
  refine ⟨m + 1, fun k => ?_, fun earlier hearlier => ?_⟩
  · have := hm _ (.inl (List.mem_map_of_mem (Kind.mem_all k)))
    omega
  · exact Nat.lt_succ_of_le (hm _ (.inr (List.mem_map_of_mem hearlier)))

/-- **When a policy can be met.** For every user and every list of earlier passwords there is a
password that violates nothing, unless the user name is to be kept out and is empty. -/
theorem exists_violations_eq_nil_iff (p : Policy) (user : Option String) (history : List String) :
    (∃ password, p.violations ⟨password, user, some (History.ofList history)⟩ = []) ↔
      ¬ (p.enabled .user = true ∧ user = some "") := by
  constructor
  · rintro ⟨password, hnone⟩ ⟨hon, rfl⟩
    have hmem := user_mem_violations_of_empty hon password (some (History.ofList history))
    rw [hnone] at hmem
    cases hmem
  · intro h
    -- a filler that is longer than anything asks for, of the alphabet that the user name leaves
    obtain ⟨n, hlimit, hhistory⟩ := exists_bound p history
    obtain ⟨second, hsecond⟩ := exists_filler_without user n
    refine ⟨String.ofList (filler second n), Policy.violations_eq_nil_iff.mpr fun k hon => ?_⟩
    by_cases hk : k = .user
    · subst hk
      rw [Bool.eq_false_iff]
      intro hbreaks
      obtain ⟨name, rfl, hoccurs⟩ := Attempt.breaks_user_iff.mp hbreaks
      rw [Attempt.chars, String.toList_ofList] at hoccurs
      exact hsecond name rfl (fun hempty => h ⟨hon, congrArg some hempty⟩) hoccurs
    · exact breaks_filler hk (hlimit k) hhistory

end PasswordPolicy
