import PasswordPolicy.Policy
import PasswordPolicy.Specification.Clause
import PasswordPolicy.Unicode.Blank

/-!
# Reading specifications

A specification is a sequence of clauses. Reading stores the value of each clause in turn, so that
the last clause of a kind counts, and stops at the first place where the text does not go on with a
well-formed clause. A blank text, by the wider notion of blank that knows all Unicode spaces, is the
specification of the empty policy.

Main statement: the accepted part and the rest of a refused text make up the text.
-/

namespace PasswordPolicy.Specification

/-- Why a text was refused. -/
inductive Refusal
  /-- The text is malformed where the rest begins. -/
  | malformed (reason : Reason) (rest : List Char)
  /-- A number has too many digits, namely so many. -/
  | numberTooLong (count : Nat)
deriving DecidableEq, Repr

/-- The kind and the value that a clause stands for. A clause without a number stores one. -/
def Clause.meaning (clause : Clause) (here : List Char) : Except Refusal (Kind × Int) :=
  match lookup clause.word with
  | none => .error (.malformed .unknownWord here)
  | some kind =>
    match clause.demand? kind with
    | none => .error (.malformed (.expected kind) here)
    | some none => .ok (kind, 1)
    | some (some digits) =>
      if digits.length ≤ Text.maxDigits then .ok (kind, Text.digitsValue digits)
      else .error (.numberTooLong digits.length)

/-- Reads clauses up to the end of the text and stores their values in `policy`. -/
def readClauses (policy : Policy) (text : List Char) : Except Refusal Policy :=
  match h : Clause.read? text with
  | none => if text.isEmpty then .ok policy else .error (.malformed .noClause text)
  | some (clause, rest) =>
    have := Clause.length_lt_of_read? h
    match clause.meaning text with
    | .error refusal => .error refusal
    | .ok (kind, value) => readClauses (policy.set kind value) rest
termination_by text.length

/-- Where no clause follows, the text has to be at its end. -/
theorem readClauses_of_none (policy : Policy) {text : List Char} (h : Clause.read? text = none) :
    readClauses policy text =
      if text.isEmpty then .ok policy else .error (.malformed .noClause text) := by
  rw [readClauses]; split
  · rfl
  · simp_all

/-- Where a clause follows, its value is stored and reading goes on behind it. -/
theorem readClauses_of_some (policy : Policy) {text rest : List Char} {clause : Clause}
    (h : Clause.read? text = some (clause, rest)) :
    readClauses policy text = match clause.meaning text with
      | .error refusal => .error refusal
      | .ok (kind, value) => readClauses (policy.set kind value) rest := by
  rw [readClauses]; split
  · simp_all
  · next heq => rw [h] at heq; cases heq; rfl

/-- Reads a whole text. -/
def read (text : List Char) : Except Refusal Policy :=
  if Unicode.allBlank text then .ok .empty else readClauses .empty text

/-- A refused text cut where reading stopped. -/
def consumed (text rest : List Char) : List Char := text.take (text.length - rest.length)

theorem consumed_append {text rest : List Char} (h : rest <:+ text) :
    consumed text rest ++ rest = text := by
  obtain ⟨front, rfl⟩ := h
  simp [consumed]

/-! ### Errors -/

/-- The error of a refused specification. -/
inductive Error
  /-- Reading stopped after the accepted part, for a reason, before the rest. -/
  | malformed (reason : Reason) (accepted rest : List Char)
  /-- A number has so many digits, which is too many. -/
  | numberTooLong (count : Nat)
deriving DecidableEq, Repr

/-- A reason with the text around the place where reading stopped. -/
def located (reason accepted rest : String) : String := reason ++ ": " ++ accepted ++ "-->" ++ rest

def Error.message : Error → String
  | malformed reason accepted rest =>
    located reason.message (String.ofList accepted) (String.ofList rest)
  | numberTooLong count => Text.tooManyDigitsMessage count

/-- How many characters were accepted before the place of the error. -/
def Error.offset : Error → Nat
  | malformed _ accepted _ => accepted.length
  | numberTooLong _ => 0

end PasswordPolicy.Specification

namespace PasswordPolicy

/-- The policy that a specification describes. -/
def Policy.ofSpecification (specification : String) : Except Specification.Error Policy :=
  let text := specification.toList
  match Specification.read text with
  | .ok policy => .ok policy
  | .error (.malformed reason rest) =>
    .error (.malformed reason (Specification.consumed text rest) rest)
  | .error (.numberTooLong count) => .error (.numberTooLong count)

/-- The policy that a specification describes; none at all describes the empty policy. -/
def Policy.ofSpecification? : Option String → Except Specification.Error Policy
  | none => .ok .empty
  | some specification => ofSpecification specification

end PasswordPolicy
