/-!
# Password history

A history answers whether a password is the one of a generation: generation 0 is the current
password, generation 1 the one before, and so on. Scanning a history for a password asks the
generations in order, at most a given number of them, and ends at the first answer that is not a
difference: at a match, or where the history is at its end.

Main statements: a scan asks an initial run of the generations, and it finds the password exactly
if the last answer is a match.
-/

namespace PasswordPolicy

/-- What a history answers for one generation. -/
inductive Answer
  /-- The password of that generation is the given one. -/
  | same
  /-- The password of that generation is another one. -/
  | different
  /-- The history does not go back that far. -/
  | missing
deriving DecidableEq, Repr

namespace Answer

/-- The name of an answer in listings. -/
def name : Answer → String
  | same => "match"
  | different => "no_match"
  | missing => "no_generation"

end Answer

/-- A history, as a function of the password in question and the generation. -/
abbrev History := String → Nat → Answer

namespace History

/-- The answer of a list of earlier passwords, newest first. A negative generation is missing. -/
def answerOf (passwords : List String) (password : String) (generation : Int) : Answer :=
  if generation < 0 then .missing
  else match passwords[generation.toNat]? with
    | none => .missing
    | some earlier => if password = earlier then .same else .different

/-- The history that a list of earlier passwords makes up, newest first. -/
def ofList (passwords : List String) : History :=
  fun password generation => answerOf passwords password generation

end History

/-! ### Scanning -/

/-- The course of a scan: the generations asked for, in order, and whether the last one matched. -/
structure Scan where
  asked : List Nat
  found : Bool
deriving DecidableEq, Repr

/-- Asks for `count` generations from `generation` on, up to the first answer that is not
`different`. -/
def scanFrom (answer : Nat → Answer) (generation : Nat) : (count : Nat) → Scan
  | 0 => ⟨[], false⟩
  | count + 1 =>
    match answer generation with
    | .same => ⟨[generation], true⟩
    | .missing => ⟨[generation], false⟩
    | .different =>
      let later := scanFrom answer (generation + 1) count
      ⟨generation :: later.asked, later.found⟩

/-- Asks for the first `count` generations. -/
def scan (answer : Nat → Answer) (count : Nat) : Scan := scanFrom answer 0 count

/-- A scan asks consecutive generations. -/
theorem asked_scanFrom (answer : Nat → Answer) (generation count : Nat) :
    (scanFrom answer generation count).asked =
      List.range' generation (scanFrom answer generation count).asked.length := by
  induction count generalizing generation with
  | zero => rfl
  | succ count ih =>
    simp only [scanFrom]
    split
    · rfl
    · rfl
    · simp only [List.length_cons, List.range'_succ]
      rw [← ih]

/-- A scan finds the password exactly if its last answer is a match. -/
theorem found_scanFrom_iff (answer : Nat → Answer) (generation count : Nat) :
    (scanFrom answer generation count).found = true ↔
      ∃ g, (scanFrom answer generation count).asked.getLast? = some g ∧ answer g = .same := by
  induction count generalizing generation with
  | zero => simp [scanFrom]
  | succ count ih =>
    simp only [scanFrom]
    split
    · next h => simp [h]
    · next h => simp [h]
    · next h =>
      rw [ih]
      cases hl : (scanFrom answer (generation + 1) count).asked with
      | nil => simp [h]
      | cons g gs => simp

end PasswordPolicy
