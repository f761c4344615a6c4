import PasswordPolicy.Text.Decimal
import PasswordPolicy.Text.Quoted

/-!
# Constraints

The closed set of password constraints. Each kind of constraint has a *token*, by which it is named
in specifications, and belongs to a *family*, which fixes how its value is written and which value
switches it off. The order of the kinds is the order of every listing.
-/

namespace PasswordPolicy

/-! ### Families -/

/-- How a constraint restricts: by a least value, by a greatest value, or by demanding or
forbidding something outright. -/
inductive Family
  | minimum
  | maximum
  | require
  | prohibit
deriving DecidableEq, Repr

namespace Family

/-- All families, in order. -/
def all : List Family := [minimum, maximum, require, prohibit]

/-- The name of a family in listings. -/
def name : Family → String
  | minimum => "MINIMUM"
  | maximum => "MAXIMUM"
  | require => "REQUIRE"
  | prohibit => "PROHIBIT"

/-- The sign by which a clause of the family is recognised. -/
def sign : Family → String
  | minimum => ">="
  | maximum => "<="
  | require => ""
  | prohibit => "!"

/-- The value that switches a constraint of the family off. -/
def default : Family → Int
  | minimum => 0
  | maximum => -1
  | require => 0
  | prohibit => 0

def ofName? (name : String) : Option Family := all.find? (·.name == name)

end Family

/-! ### Kinds -/

/-- The kinds of constraints, in the order of every listing. -/
inductive Kind
  | length
  | uppercase
  | lowercase
  | digit
  | special
  | age
  | reuse
  | user
deriving DecidableEq, Repr

namespace Kind

/-- All kinds, in order. -/
def all : List Kind := [length, uppercase, lowercase, digit, special, age, reuse, user]

@[simp] theorem mem_all (k : Kind) : k ∈ all := by cases k <;> decide

/-- The word that names the kind in specifications and listings. -/
def token : Kind → String
  | length => "length"
  | uppercase => "upper"
  | lowercase => "lower"
  | digit => "digit"
  | special => "special"
  | age => "age"
  | reuse => "repeat"
  | user => "user"

theorem token_injective {k l : Kind} (h : k.token = l.token) : k = l := by
  revert h; cases k <;> cases l <;> decide

/-- The long name of the kind. -/
def name : Kind → String
  | length => "LENGTH"
  | uppercase => "UPPERCASE"
  | lowercase => "LOWERCASE"
  | digit => "DIGIT"
  | special => "SPECIAL"
  | age => "AGE"
  | reuse => "REUSE"
  | user => "USER_SUBSTRING"

def family : Kind → Family
  | length | uppercase | lowercase | digit | special | reuse => .minimum
  | age => .maximum
  | user => .prohibit

/-- The value of a constraint that is switched off. -/
def default (k : Kind) : Int := k.family.default

/-- Is a constraint of this kind with this value, if there is one, switched on? -/
def enabled (k : Kind) : Option Int → Bool
  | none => false
  | some value => value != k.default

@[simp] theorem enabled_none (k : Kind) : k.enabled none = false := rfl

@[simp] theorem enabled_some (k : Kind) (value : Int) :
    k.enabled (some value) = true ↔ value ≠ k.default := by simp [enabled]

/-- The values that a named-field definition can give to a constraint of the kind: a bound is not
below the value that switches it off, and a demand is made or not. -/
def Admissible (k : Kind) (value : Int) : Prop :=
  match k.family with
  | .minimum | .maximum => k.default ≤ value
  | .require | .prohibit => value = 0 ∨ value = 1

instance (k : Kind) (value : Int) : Decidable (k.Admissible value) := by
  unfold Admissible; split <;> infer_instance

theorem admissible_default (k : Kind) : k.Admissible k.default := by cases k <;> decide

/-! ### Clauses -/

/-- The clause that demands the value; only the families with a bound write it. -/
def written (k : Kind) (value : Int) : List Char :=
  match k.family with
  | .minimum => k.token.toList ++ '>' :: '=' :: Text.decimal value
  | .maximum => k.token.toList ++ '<' :: '=' :: Text.decimal value
  | .require => k.token.toList
  | .prohibit => '!' :: k.token.toList

/-- Can the clause that demands the value be written? -/
def isWritable (k : Kind) (value : Int) : Bool :=
  match k.family with
  | .minimum | .maximum => Text.isWritable value
  | .require | .prohibit => true

/-- The clause for a value, or nothing if the constraint is switched off. -/
def clause (k : Kind) (value : Option Int) : List Char :=
  if k.enabled value then k.written (value.getD k.default) else []

theorem written_ne_nil (k : Kind) (value : Int) : k.written value ≠ [] := by
  cases k <;> simp [written, family, token]

end Kind

/-! ### Naming a kind by its exact token -/

/-- A word that is not the token of any kind. -/
structure UnknownKind where
  word : String
deriving DecidableEq, Repr

/-- The text of the error. -/
def UnknownKind.message (e : UnknownKind) : String :=
  Text.quoted e.word ++ " is not a valid ConstraintKind"

/-- The kind with exactly this token; case matters. -/
def Kind.ofToken (word : String) : Except UnknownKind Kind :=
  match Kind.all.find? (·.token == word) with
  | some k => .ok k
  | none => .error ⟨word⟩

theorem Kind.ofToken_token (k : Kind) : Kind.ofToken k.token = .ok k := by cases k <;> rfl

end PasswordPolicy
