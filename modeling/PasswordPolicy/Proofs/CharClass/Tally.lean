import Mathlib.Algebra.Ring.Nat
import PasswordPolicy.CharClass

/-!
# Tallies of texts

A text is tallied in one pass. A character adds to one of the six counts and leaves the others, so
at the end each count is the number of characters of its class; and these numbers say all that there
is to say about tallies of joined, rearranged and whole texts.

* **`Tally.add_of`**, **`foldl_add_of`**: what one character and what a text adds to a tally.
* **`CharClass.sum_count`**: every character counts for one class.
* **`tally_append_and_perm`**: the laws of tallies.
-/

namespace PasswordPolicy

/-- Every character is of one class, so the counts of all classes add up to the length. -/
theorem CharClass.sum_count (text : List Char) :
    (all.map fun cls => cls.count text).sum = text.length := by
  induction text with
  | nil => rfl
  | cons c text ih =>
    simp only [all, List.map_cons, List.map_nil, List.sum_cons, List.sum_nil, count_cons,
      List.length_cons] at ih ⊢
    -- the character adds one to the count of its class
    cases classify c <;> simp only [reduceCtorEq, if_true, if_false] <;> omega

variable {cls : CharClass} {count : CharClass → Nat} {a b : List Char}

/-! ### One character more -/

/-- **One character adds to the count of its class only.** The counts of the other classes stay as
they are. -/
theorem Tally.add_of (count : CharClass → Nat) (cls : CharClass) :
    Tally.add (.of count) cls = .of fun other => count other + if cls = other then 1 else 0 := by
  rw [add, of, of, List.map_map]
  apply List.map_congr_left
  intro other _
  by_cases h : other = cls
  · simp [h]
  · simp [h, Ne.symm h]

/-- What a tally says about a class is the count of the class. -/
theorem Tally.lookup_of (count : CharClass → Nat) (cls : CharClass) :
    List.lookup cls (Tally.of count) = some (count cls) := by
  cases cls <;> rfl

/-! ### All characters of a text -/

/-- **A text adds its own counts**, whatever has been counted before it. The statement is about any
counts to begin with, so that the induction can go through the text. -/
theorem foldl_add_of (text : List Char) (count : CharClass → Nat) :
    text.foldl (fun t c => Tally.add t (classify c)) (Tally.of count) =
      .of fun cls => count cls + cls.count text := by
  induction text generalizing count with
  | nil => rfl
  | cons c text ih =>
    rw [List.foldl_cons, Tally.add_of, ih]
    apply congrArg Tally.of
    funext cls
    rw [CharClass.count_cons]
    omega

theorem tally_eq (text : List Char) : tally text = .of fun cls => cls.count text := by
  rw [tally, foldl_add_of]
  simp only [Nat.zero_add]

theorem lookup_tally (text : List Char) (cls : CharClass) :
    List.lookup cls (tally text) = some (cls.count text) := by
  rw [tally_eq, Tally.lookup_of]

/-- The order of the characters does not matter, because it does not to any of the counts. -/
theorem tally_eq_of_perm (h : a.Perm b) : tally a = tally b := by
  rw [tally_eq, tally_eq]
  apply congrArg Tally.of
  funext cls
  exact h.countP_eq _

/-! ### The laws -/

/-- **The laws of tallies.** The tally of a text has all classes, each once and in order, with the
number of characters of the class. So the counts of two texts that are joined add up, class by
class; all counts together are the length of the text; and the order of the characters does not
matter. -/
theorem tally_append_and_perm (a b : List Char) :
    (tally a).map Prod.fst = CharClass.all ∧
      (∀ cls, List.lookup cls (tally a) = some (a.countP fun c => classify c = cls)) ∧
      (∀ cls, ∃ m n, List.lookup cls (tally a) = some m ∧ List.lookup cls (tally b) = some n ∧
        List.lookup cls (tally (a ++ b)) = some (m + n)) ∧
      ((tally a).map Prod.snd).sum = a.length ∧
      (a.Perm b → tally a = tally b) := by
  -- each part follows from the counts of single classes
  refine ⟨by rw [tally_eq]; rfl, lookup_tally a, fun cls => ?_, ?_, tally_eq_of_perm⟩
  · refine ⟨cls.count a, cls.count b, lookup_tally a cls, lookup_tally b cls, ?_⟩
    rw [lookup_tally, CharClass.count_append]
  · rw [tally_eq, Tally.of, List.map_map]
    exact CharClass.sum_count a

/-- Two letters beside a digit of another script and a letter that has no case. -/
theorem tally_append_and_perm_of_scripts :
    List.lookup .upper (tally ("\u03a3a".toList ++ "\u0663\u00aa".toList)) = some 1 ∧
      ((tally "\u0663\u00aa\u03a3a".toList).map Prod.snd).sum = 4 ∧
      "\u03a3a\u0663\u00aa".toList.Perm "\u0663\u00aa\u03a3a".toList ∧
      tally "\u03a3a\u0663\u00aa".toList = tally "\u0663\u00aa\u03a3a".toList := by
  have hperm : "\u03a3a\u0663\u00aa".toList.Perm "\u0663\u00aa\u03a3a".toList := by decide
  obtain ⟨-, -, hjoined, -, -⟩ :=
    tally_append_and_perm "\u03a3a".toList "\u0663\u00aa".toList
  obtain ⟨-, -, -, hsum, -⟩ := tally_append_and_perm "\u0663\u00aa\u03a3a".toList []
  obtain ⟨-, -, -, -, hrearranged⟩ :=
    tally_append_and_perm "\u03a3a\u0663\u00aa".toList "\u0663\u00aa\u03a3a".toList
  refine ⟨?_, hsum, hperm, hrearranged hperm⟩
  obtain ⟨m, n, hm, hn, hmn⟩ := hjoined .upper
  rw [lookup_tally] at hm hn
  rw [hmn, ← Option.some.inj hm, ← Option.some.inj hn]
  decide +kernel

end PasswordPolicy
