import PasswordPolicy.Unicode.Category

/-!
# Character classes

A policy tells six classes of characters apart. Every character belongs to exactly one of them: the
class is read off its Unicode general category, and whatever is no digit, letter with case,
punctuation, symbol or space counts as a control character.
-/

namespace PasswordPolicy

/-- The classes of characters, in the order in which they are listed. -/
inductive CharClass
  | control
  | space
  | digit
  | upper
  | lower
  | special
deriving DecidableEq, Repr, Inhabited

namespace CharClass

/-- All classes, in order. -/
def all : List CharClass := [control, space, digit, upper, lower, special]

theorem mem_all (cls : CharClass) : cls ∈ all := by cases cls <;> decide

/-- The name of a class in listings. -/
def name : CharClass → String
  | control => "control"
  | space => "space"
  | digit => "digit"
  | upper => "upper"
  | lower => "lower"
  | special => "special"

end CharClass

def classify (c : Char) : CharClass :=
  if Unicode.inRuns Unicode.decimalDigits c then .digit
  else if Unicode.inRuns Unicode.uppercaseLetters c then .upper
  else if Unicode.inRuns Unicode.lowercaseLetters c then .lower
  else if Unicode.inRuns Unicode.punctuation c then .special
  else if Unicode.inRuns Unicode.spaceSeparators c then .space
  else .control

/-- How many characters of the text are of the class. -/
def CharClass.count (cls : CharClass) (text : List Char) : Nat :=
  text.countP fun c => classify c == cls

@[simp] theorem CharClass.count_nil (cls : CharClass) : cls.count [] = 0 := rfl

@[simp] theorem CharClass.count_append (cls : CharClass) (a b : List Char) :
    cls.count (a ++ b) = cls.count a + cls.count b := List.countP_append

/-- Counting one class at a time or one character at a time is the same. -/
theorem CharClass.count_cons (cls : CharClass) (c : Char) (text : List Char) :
    cls.count (c :: text) = cls.count text + if classify c = cls then 1 else 0 := by
  simp [CharClass.count, List.countP_cons]

/-! ### Tallies -/

/-- How many characters of each class there are, with all classes in order. -/
abbrev Tally := List (CharClass × Nat)

namespace Tally

/-- The tally with these counts. -/
def of (count : CharClass → Nat) : Tally := CharClass.all.map fun cls => (cls, count cls)

/-- The tally with one more character of the class. -/
def add (t : Tally) (cls : CharClass) : Tally :=
  t.map fun (other, n) => (other, if other = cls then n + 1 else n)

end Tally

/-- The tally of a text: all counts start at zero, and each character adds to that of its class. -/
def tally (text : List Char) : Tally :=
  text.foldl (fun t c => Tally.add t (classify c)) (.of fun _ => 0)

end PasswordPolicy
