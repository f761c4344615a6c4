import PasswordPolicy.Constraint
import PasswordPolicy.Unicode.LetterCase

/-!
# Clauses

A clause of a specification is an optional `!`, a word, and an optional bound, with white space
allowed around each part. The reader takes as much as it can at each step: the word is the longest
run of word characters, the number of a bound the longest run of digits. White space here means the
six ASCII characters, and words and numbers are ASCII as well.

Main statements: reading a clause consumes at least one character, and what it leaves is a suffix
of the text.
-/

namespace PasswordPolicy.Specification

/-! ### Characters -/

/-- White space between the parts of a clause. -/
def isSpace (c : Char) : Bool :=
  c == ' ' || c == '\t' || c == '\n' || c == '\r' || c == '\x0b' || c == '\x0c'

/-- A character of a word: a letter, a digit or an underscore, all ASCII. -/
def isWordChar (c : Char) : Bool := c.isAlphanum || c == '_'

/-- The text after leading white space. -/
def skipSpace (text : List Char) : List Char := text.dropWhile isSpace

theorem skipSpace_suffix (text : List Char) : skipSpace text <:+ text := List.dropWhile_suffix _

/-! ### Bounds -/

/-- The two signs of a bound. -/
inductive Comparison
  | atLeast
  | atMost
deriving DecidableEq, Repr

/-- A bound as it is written: its sign and the digits of its number. -/
structure Bound where
  comparison : Comparison
  digits : List Char
deriving DecidableEq, Repr

/-- The sign at the start of the text, and what follows it. -/
def readComparison : List Char → Option (Comparison × List Char)
  | '>' :: '=' :: rest => some (.atLeast, rest)
  | '<' :: '=' :: rest => some (.atMost, rest)
  | _ => none

/-- The bound at the start of the text, and what follows it and the white space after it. -/
def readBound (text : List Char) : Option (Bound × List Char) :=
  match readComparison text with
  | none => none
  | some (comparison, rest) =>
    let number := skipSpace rest
    match number.takeWhile Char.isDigit with
    | [] => none
    | digits => some (⟨comparison, digits⟩, skipSpace (number.dropWhile Char.isDigit))

theorem readComparison_suffix {text rest : List Char} {comparison : Comparison}
    (h : readComparison text = some (comparison, rest)) : rest <:+ text := by
  unfold readComparison at h
  split at h
  · cases h; exact ⟨['>', '='], rfl⟩
  · cases h; exact ⟨['<', '='], rfl⟩
  · cases h

theorem readBound_suffix {text rest : List Char} {bound : Bound}
    (h : readBound text = some (bound, rest)) : rest <:+ text := by
  unfold readBound at h
  split at h
  · cases h
  · next comparison afterSign hsign =>
    simp only at h
    split at h
    · cases h
    · cases h
      exact (skipSpace_suffix _).trans <| (List.dropWhile_suffix _).trans <|
        (skipSpace_suffix _).trans (readComparison_suffix hsign)

/-! ### Clauses -/

/-- A clause as it is written, before anything is known about its word. -/
structure Clause where
  bang : Bool
  word : List Char
  bound : Option Bound
deriving DecidableEq, Repr

/-- Takes a leading `!` and the white space around it. -/
def readBang (text : List Char) : Bool × List Char :=
  match skipSpace text with
  | '!' :: rest => (true, skipSpace rest)
  | rest => (false, rest)

theorem readBang_suffix (text : List Char) : (readBang text).2 <:+ text := by
  unfold readBang
  have h := skipSpace_suffix text
  split
  · next rest heq =>
    rw [heq] at h
    exact (skipSpace_suffix rest).trans ((List.suffix_cons _ _).trans h)
  · exact h

/-- The clause at the start of the text, and what follows it and the white space after it. There is
none if the text does not come to a word. -/
def Clause.read? (text : List Char) : Option (Clause × List Char) :=
  let (bang, start) := readBang text
  match start.takeWhile isWordChar with
  | [] => none
  | word =>
    let afterWord := skipSpace (start.dropWhile isWordChar)
    match readBound afterWord with
    | some (bound, rest) => some (⟨bang, word, some bound⟩, rest)
    | none => some (⟨bang, word, none⟩, afterWord)

/-- Reading a clause leaves a suffix of the text after its first word. -/
theorem Clause.read?_suffix {text rest : List Char} {clause : Clause}
    (h : Clause.read? text = some (clause, rest)) :
    rest <:+ (readBang text).2.dropWhile isWordChar ∧
      (readBang text).2.takeWhile isWordChar ≠ [] := by
  unfold Clause.read? at h
  simp only at h
  split at h
  · cases h
  · next word hword =>
    refine ⟨?_, hword⟩
    split at h
    · next bound after hbound =>
      cases h
      exact (readBound_suffix hbound).trans (skipSpace_suffix _)
    · cases h
      exact skipSpace_suffix _

/-- Reading a clause consumes at least one character. -/
theorem Clause.length_lt_of_read? {text rest : List Char} {clause : Clause}
    (h : Clause.read? text = some (clause, rest)) : rest.length < text.length := by
  obtain ⟨hrest, hword⟩ := Clause.read?_suffix h
  have hle := (readBang_suffix text).length_le
  have hsplit := congrArg List.length
    (List.takeWhile_append_dropWhile (p := isWordChar) (l := (readBang text).2))
  have hpos := List.length_pos_iff.mpr hword
  have := hrest.length_le
  simp only [List.length_append] at hsplit
  omega

/-- What follows a clause is a suffix of the text. -/
theorem Clause.suffix_of_read? {text rest : List Char} {clause : Clause}
    (h : Clause.read? text = some (clause, rest)) : rest <:+ text :=
  (Clause.read?_suffix h).1.trans ((List.dropWhile_suffix _).trans (readBang_suffix text))

/-! ### The meaning of a clause -/

/-- The kind that a word names, whatever its case: the one whose token is the lower-case form of
the word. -/
def lookup (word : List Char) : Option Kind :=
  Kind.all.find? fun k => k.token.toList == Unicode.lowerCase word

/-- Why a text is no specification at the place where reading stopped. -/
inductive Reason
  /-- The text does not go on with a clause. -/
  | noClause
  /-- The clause names no kind of constraint. -/
  | unknownWord
  /-- The clause is not written the way its kind demands. -/
  | expected (kind : Kind)
deriving DecidableEq, Repr

/-- How a clause of the kind has to be written. -/
def shape (k : Kind) : String :=
  match k.family with
  | .minimum => k.token ++ ">=number"
  | .maximum => k.token ++ "<=number"
  | .require => k.token
  | .prohibit => "!" ++ k.token

/-- The wording of a reason. -/
def Reason.message : Reason → String
  | noClause => "parsing error"
  | unknownWord => "unrecognized token"
  | expected kind => shape kind ++ " expected"

/-- What a clause of the kind demands: the digits of a bound, or nothing but itself. The result is
`none` if the clause is not written the way the kind demands. -/
def Clause.demand? (clause : Clause) (kind : Kind) : Option (Option (List Char)) :=
  match kind.family, clause.bang, clause.bound with
  | .minimum, false, some ⟨.atLeast, digits⟩ => some (some digits)
  | .maximum, false, some ⟨.atMost, digits⟩ => some (some digits)
  | .require, false, none => some none
  | .prohibit, true, none => some none
  | _, _, _ => none

end PasswordPolicy.Specification
