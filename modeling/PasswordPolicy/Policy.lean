import PasswordPolicy.Constraint

/-!
# Policies

A policy stores a value for some of the constraints; a constraint without a stored value behaves as
if switched off. Two policies are equivalent if they give every constraint the same value, whether
stored or not. The canonical text of a policy lists the clauses of the constraints that are
switched on, in the order of the kinds, one space between neighbours.
-/

namespace PasswordPolicy

/-- The stored values of a policy. -/
@[ext] structure Policy where
  stored : Kind → Option Int

namespace Policy

/-- The policy that stores nothing. -/
def empty : Policy := ⟨fun _ => none⟩

instance : Inhabited Policy := ⟨empty⟩

/-- The value of a constraint. -/
def get (p : Policy) (k : Kind) : Int := (p.stored k).getD k.default

/-- The policy with one more value stored, in place of the one before. -/
def set (p : Policy) (k : Kind) (value : Int) : Policy :=
  ⟨fun l => if l = k then some value else p.stored l⟩

@[simp] theorem stored_set (p : Policy) (k l : Kind) (value : Int) :
    (p.set k value).stored l = if l = k then some value else p.stored l := rfl

@[simp] theorem get_set_self (p : Policy) (k : Kind) (value : Int) :
    (p.set k value).get k = value := by simp [get]

@[simp] theorem get_set_of_ne (p : Policy) {k l : Kind} (h : l ≠ k) (value : Int) :
    (p.set k value).get l = p.get l := by simp [get, h]

/-- Is the constraint switched on? -/
def enabled (p : Policy) (k : Kind) : Bool := k.enabled (some (p.get k))

/-- Only stored values can switch a constraint on. -/
theorem enabled_eq (p : Policy) (k : Kind) : p.enabled k = k.enabled (p.stored k) := by
  cases h : p.stored k <;> simp [enabled, get, h, Kind.enabled]

/-! ### Equivalence -/

instance : Setoid Policy where
  r p q := ∀ k, p.get k = q.get k
  iseqv := ⟨fun _ _ => rfl, fun h k => (h k).symm, fun h h' k => (h k).trans (h' k)⟩

theorem equiv_iff {p q : Policy} : p ≈ q ↔ ∀ k, p.get k = q.get k := Iff.rfl

instance (p q : Policy) : Decidable (p ≈ q) :=
  decidable_of_iff (∀ k ∈ Kind.all, p.get k = q.get k)
    ⟨fun h k => h k (Kind.mem_all k), fun h k _ => h k⟩

/-! ### Text -/

/-- The clauses of the constraints that are switched on, in order; the others have none. -/
def clauses (p : Policy) : List (List Char) :=
  (Kind.all.map fun k => k.clause (p.stored k)).filter (· ≠ [])

/-- A clause that is left out is one of a value that is not stored or switches nothing on. -/
theorem clause_stored (p : Policy) (k : Kind) :
    k.clause (p.stored k) = if p.enabled k then k.written (p.get k) else [] := by
  rw [Kind.clause, enabled_eq, get]

/-- Whether a value is stored makes no difference to the clauses. -/
theorem clauses_eq (p : Policy) :
    p.clauses = (Kind.all.filter p.enabled).map fun k => k.written (p.get k) := by
  unfold clauses
  induction Kind.all with
  | nil => rfl
  | cons k kinds ih =>
    rw [List.map_cons, clause_stored]
    by_cases hon : p.enabled k = true
    · rw [List.filter_cons_of_pos hon, List.map_cons, if_pos hon,
        List.filter_cons_of_pos (by simpa using k.written_ne_nil (p.get k)), ih]
    · rw [List.filter_cons_of_neg hon, if_neg hon, List.filter_cons_of_neg (by simp), ih]

def canonical (p : Policy) : List Char := [' '].intercalate p.clauses

/-- The canonical text: a specification of the policy. -/
def text (p : Policy) : String := String.ofList p.canonical

/-- Can the canonical text be written, that is, all of its clauses? -/
def isWritable (p : Policy) : Bool :=
  (Kind.all.filter p.enabled).all fun k => k.isWritable (p.get k)

/-- The policy as it is shown to a developer. -/
def display (p : Policy) : String := "RuleSet(" ++ Text.quoted p.text ++ ")"

/-! ### Named properties -/

/-- The least length of a password. -/
def minLength (p : Policy) : Int := p.get .length

/-- The least number of upper-case letters. -/
def minUpper (p : Policy) : Int := p.get .uppercase

/-- The least number of lower-case letters. -/
def minLower (p : Policy) : Int := p.get .lowercase

/-- The least number of digits. -/
def minDigit (p : Policy) : Int := p.get .digit

/-- The least number of punctuation characters and symbols. -/
def minSpecial (p : Policy) : Int := p.get .special

/-- The number of earlier passwords that may not be used again. -/
def minUnique (p : Policy) : Int := p.get .reuse

/-- The days before a password has to be changed. -/
def maxAge (p : Policy) : Int := p.get .age

/-- Is the user name kept out of passwords? -/
def noUser (p : Policy) : Bool := p.enabled .user

/-- Are letters of some case required? -/
def requireMixedCase (p : Policy) : Bool := p.minUpper + p.minLower > 0

def requireDigits (p : Policy) : Bool := p.minDigit > 0

/-- Are punctuation characters or symbols required? -/
def requireSpecial (p : Policy) : Bool := p.minSpecial > 0

/-- Are earlier passwords kept out? -/
def preventRepeats (p : Policy) : Bool := p.minUnique > 0

def expirePasswords (p : Policy) : Bool := p.maxAge > 0

/-- Is the user name kept out of passwords? -/
def restrictUser (p : Policy) : Bool := p.noUser

/-! ### Building a policy from tokens -/

/-- Stores the values in order, each under its exact token; the first unknown word is an error. -/
def ofTokens (values : List (String × Int)) : Except UnknownKind Policy :=
  values.foldlM (fun p entry => do return p.set (← Kind.ofToken entry.1) entry.2) empty

end Policy

end PasswordPolicy
