import PasswordPolicy.Proofs.Specification.Malformed
import PasswordPolicy.Proofs.Text.LetterCase

/-!
# Specifications in capital and small letters

Reading a specification in small letters gives what reading the specification itself gives, with
small letters in the text that an error shows. So two texts that differ in case only have the same
answer: what is stored, or what is wrong and where.

* **`Clause.read?_lowered`**: one clause in small letters.
* **`readClauses_lowered`**: all clauses of a text.
* **`ofSpecification_sameAnswer`**: texts that differ in case only.
* **`lookup_eq_some_iff_sameLetters`**: which words name a kind, whatever characters they hold.
-/

namespace PasswordPolicy.Specification

open Text

/-! ### Characters

Each class of characters that the reader asks for holds both cases of a letter or neither. -/

theorem ignoresCase_isSpace : IgnoresCase isSpace := ignoresCase_of_ascii (by decide)

theorem ignoresCase_isWordChar : IgnoresCase isWordChar := ignoresCase_of_ascii (by decide)

theorem ignoresCase_isDigit : IgnoresCase Char.isDigit := ignoresCase_of_ascii (by decide)

/-! ### Bounds -/

@[simp] theorem skipSpace_lowered (text : List Char) :
    skipSpace (lowered text) = lowered (skipSpace text) :=
  ignoresCase_isSpace.dropWhile_lowered text

theorem isAlpha_of_isDigit {c : Char} (h : c.isDigit = true) : c.isAlpha = false :=
  Unicode.forall_ascii (P := fun c => c.isDigit = true → c.isAlpha = false)
    (by decide) (toNat_lt_of_isWordChar (isWordChar_of_isDigit h)) h

theorem lowered_of_isDigit {digits : List Char} (h : ∀ c ∈ digits, c.isDigit = true) :
    lowered digits = digits :=
  (lowered_eq_iff fun c hc => isAlpha_of_isDigit (h c hc)).mpr rfl

/-- The signs of bounds hold no letters. -/
theorem Comparison.isAlpha_sign (comparison : Comparison) :
    ∀ c ∈ comparison.sign, c.isAlpha = false := by
  cases comparison with
  | atLeast => exact List.forall_mem_cons.mpr ⟨by decide, List.forall_mem_singleton.mpr (by decide)⟩
  | atMost => exact List.forall_mem_cons.mpr ⟨by decide, List.forall_mem_singleton.mpr (by decide)⟩

/-- A comparison is read in small letters exactly where it is read in the text, as its sign has no
letter in it. -/
theorem readComparison_lowered (text : List Char) :
    readComparison (lowered text) = (readComparison text).map (Prod.map id lowered) := by
  cases h : readComparison text with
  -- the sign stays as it is in small letters
  | some result =>
    obtain ⟨comparison, rest⟩ := result
    rw [readComparison_eq_some_iff.mp h]
    refine readComparison_eq_some_iff.mpr ?_
    rw [lowered, List.map_append]
    exact congrArg (· ++ lowered rest) ((lowered_eq_iff comparison.isAlpha_sign).mpr rfl)
  | none =>
    -- a sign in the small letters would stand in the text itself
    cases h' : readComparison (lowered text) with
    | none => rfl
    | some result =>
      obtain ⟨comparison, rest⟩ := result
      obtain ⟨front, back, rfl, hfront, -⟩ :=
        List.map_eq_append_iff.mp (readComparison_eq_some_iff.mp h')
      rw [(lowered_eq_iff comparison.isAlpha_sign).mp hfront,
        readComparison_eq_some_iff.mpr rfl] at h
      cases h

/-- A bound is read with the same number, because small letters change neither its sign nor its
digits. -/
theorem readBound_lowered (text : List Char) :
    readBound (lowered text) = (readBound text).map (Prod.map id lowered) := by
  unfold readBound
  rw [readComparison_lowered]
  cases readComparison text with
  | none => rfl
  | some result =>
    obtain ⟨comparison, rest⟩ := result
    -- the number is not changed by the case of letters around it
    have hdigits : lowered ((skipSpace rest).takeWhile Char.isDigit) =
        (skipSpace rest).takeWhile Char.isDigit :=
      lowered_of_isDigit fun _ hc => List.mem_takeWhile_imp hc
    simp only [Option.map_some, Prod.map, skipSpace_lowered,
      ignoresCase_isDigit.takeWhile_lowered, ignoresCase_isDigit.dropWhile_lowered, hdigits]
    split
    · rfl
    · rfl

/-! ### Clauses -/

/-- Whether a `!` stands before a word does not depend on case. -/
theorem readBang_lowered (text : List Char) :
    readBang (lowered text) = Prod.map id lowered (readBang text) := by
  unfold readBang
  rw [skipSpace_lowered]
  cases skipSpace text with
  | nil => rfl
  | cons c rest =>
    by_cases hc : c = '!'
    · subst hc
      exact congrArg (Prod.mk true) (skipSpace_lowered rest)
    · -- a character that is not `!` does not become `!` either
      have hc' : c.toLower ≠ '!' := fun h => hc ((toLower_eq_iff (by decide)).mp h)
      rw [lowered, List.map_cons]
      split
      · next heq => exact absurd (List.cons.inj heq).1 hc'
      · split
        · next heq => exact absurd (List.cons.inj heq).1 hc
        · rfl

/-- The clause with its word in small letters. -/
def Clause.lowered (clause : Clause) : Clause := { clause with word := Text.lowered clause.word }

/-- **A clause in small letters** is read as the clause with a word in small letters. Its number and
its signs are the same, since no letter is among them. -/
theorem Clause.read?_lowered (text : List Char) :
    Clause.read? (Text.lowered text) =
      (Clause.read? text).map (Prod.map Clause.lowered Text.lowered) := by
  unfold Clause.read?
  rw [readBang_lowered]
  simp only [Prod.map, id, ignoresCase_isWordChar.takeWhile_lowered,
    ignoresCase_isWordChar.dropWhile_lowered, skipSpace_lowered, readBound_lowered]
  cases (readBang text).2.takeWhile isWordChar with
  | nil => rfl
  | cons c word =>
    cases readBound (skipSpace ((readBang text).2.dropWhile isWordChar)) with
    | none => rfl
    | some result => rfl

/-- What a clause that is read becomes in small letters. -/
theorem Clause.read?_lowered_of_some {text rest : List Char} {clause : Clause}
    (h : Clause.read? text = some (clause, rest)) :
    Clause.read? (Text.lowered text) = some (clause.lowered, Text.lowered rest) := by
  rw [Clause.read?_lowered, h]
  rfl

/-! ### Words

The word of a clause is ASCII, but any text can be looked up, and looking it up asks for its full
lower-case form. -/

/-- A word names a kind exactly if it differs from the token in the case of ASCII letters only, as a
token is written in small letters. -/
theorem names_iff_sameLetters {word : List Char} {k : Kind} :
    Names word k ↔ SameLetters word k.token.toList := by
  have htoken : lowered k.token.toList = k.token.toList := token_names k
  rw [sameLetters_iff, htoken]
  rfl

/-- **A text names a kind exactly if it is the token of the kind** in some case of its ASCII
letters. Every other text names none, and so does every text with a character that is not ASCII. -/
theorem lookup_eq_some_iff_sameLetters (text : List Char) :
    (∀ k, lookup text = some k ↔
        text.length = k.token.length ∧ SameLetters text k.token.toList) ∧
      (lookup text = none ↔ ∀ k : Kind, ¬ SameLetters text k.token.toList) ∧
      ((∃ c ∈ text, 128 ≤ c.toNat) → lookup text = none) := by
  refine ⟨fun k => ?_, ?_, ?_⟩
  · rw [lookup_eq_some_iff, names_iff_sameLetters]
    exact (and_iff_right_of_imp fun h => h.length_eq).symm
  · rw [lookup_eq_none_iff]
    exact forall_congr' fun k => not_congr names_iff_sameLetters
  · rintro ⟨c, hc, hlarge⟩
    exact lookup_eq_none_iff.mpr fun k hk => Nat.not_lt.mpr hlarge (hk.ascii c hc)

/-- Dotted capital I is no `I`, though its lower-case form starts with an `i`. -/
theorem lookup_eq_some_iff_sameLetters_of_dotted :
    (∃ c ∈ "D\u0130git".toList, 128 ≤ c.toNat) ∧
      "D\u0130git".toList.length = Kind.digit.token.length ∧
      Unicode.lowerCase "D\u0130git".toList = "di\u0307git".toList ∧
      lookup "D\u0130git".toList = none ∧ lookup "DIgit".toList = some .digit := by
  have hdotted : ∃ c ∈ "D\u0130git".toList, 128 ≤ c.toNat := ⟨'\u0130', by decide, by decide⟩
  have hletters : SameLetters "DIgit".toList Kind.digit.token.toList := by decide
  refine ⟨hdotted, by decide, by decide +kernel, ?_, ?_⟩
  · exact (lookup_eq_some_iff_sameLetters _).2.2 hdotted
  · exact ((lookup_eq_some_iff_sameLetters _).1 .digit).mpr ⟨hletters.length_eq, hletters⟩

/-! ### The meaning of a clause -/

theorem lookup_lowered (word : List Char) : lookup (lowered word) = lookup word := by
  rw [lookup, lowerCase_lowered]
  rfl

/-- The refusal of the same text in small letters. -/
def Refusal.lowered : Refusal → Refusal
  | malformed reason rest => malformed reason (Text.lowered rest)
  | numberTooLong count => numberTooLong count

/-- A clause means the same in small letters, and it is refused for the same reason if it is
refused. -/
theorem Clause.meaning_lowered (clause : Clause) (here : List Char) :
    clause.lowered.meaning (Text.lowered here) =
      (clause.meaning here).mapError Refusal.lowered := by
  unfold Clause.meaning
  rw [show lookup clause.lowered.word = lookup clause.word from lookup_lowered clause.word]
  cases lookup clause.word with
  | none => rfl
  | some kind =>
    -- the word of a clause has no part in what the clause demands
    have hdemand : clause.lowered.demand? kind = clause.demand? kind := rfl
    simp only [hdemand]
    rcases clause.demand? kind with _ | _ | digits
    · rfl
    · rfl
    · dsimp only
      split
      · rfl
      · rfl

/-! ### Texts -/

/-- **All clauses of a text in small letters** are read with the same result. If they cannot be
read, reading stops at the same place for the same reason. -/
theorem readClauses_lowered (policy : Policy) (text : List Char) :
    readClauses policy (Text.lowered text) =
      (readClauses policy text).mapError Refusal.lowered := by
  -- one case for each way in which the reader ends or goes on
  fun_induction readClauses policy text with
  | case1 policy text hread hempty =>
    obtain rfl := List.isEmpty_iff.mp hempty
    exact readClauses_nil policy
  | case2 policy text hread hempty =>
    have hnone : Clause.read? (Text.lowered text) = none := by
      rw [Clause.read?_lowered, hread]
      rfl
    rw [readClauses_of_none policy hnone, Text.lowered, List.isEmpty_map, if_neg hempty]
    rfl
  | case3 policy text clause rest hread _ refusal hmeaning =>
    rw [readClauses_of_some policy (Clause.read?_lowered_of_some hread),
      Clause.meaning_lowered, hmeaning]
    rfl
  | case4 policy text clause rest hread _ kind value hmeaning ih =>
    rw [readClauses_of_some policy (Clause.read?_lowered_of_some hread),
      Clause.meaning_lowered, hmeaning]
    exact ih

/-- The answer for a whole text in small letters. Whether it is blank does not depend on case. -/
theorem read_lowered (text : List Char) :
    read (Text.lowered text) = (read text).mapError Refusal.lowered := by
  have hblank : Unicode.allBlank (Text.lowered text) = Unicode.allBlank text :=
    (ignoresCase_of_ascii (by decide)).all_lowered text
  unfold read
  rw [hblank]
  split
  · rfl
  · exact readClauses_lowered .empty text

/-- The accepted part of a text in small letters is the accepted part in small letters, since only
its length is counted. -/
theorem consumed_lowered (text rest : List Char) :
    consumed (Text.lowered text) (Text.lowered rest) = Text.lowered (consumed text rest) := by
  simp only [consumed, Text.lowered, List.length_map, List.map_take]

/-- The error for the same text in small letters. -/
def Error.lowered : Error → Error
  | malformed reason accepted rest =>
    malformed reason (Text.lowered accepted) (Text.lowered rest)
  | numberTooLong count => numberTooLong count

/-- **A specification in small letters** has the same answer, but for the letters of the text that
an error shows. -/
theorem ofSpecification_lowered (s : String) :
    Policy.ofSpecification (String.ofList (Text.lowered s.toList)) =
      (Policy.ofSpecification s).mapError Error.lowered := by
  unfold Policy.ofSpecification
  simp only [String.toList_ofList, read_lowered]
  rcases read s.toList with (⟨reason, rest⟩ | count) | policy
  · simp only [Except.mapError, Refusal.lowered, Error.lowered, consumed_lowered]
  · rfl
  · rfl

/-! ### Texts that differ in case -/

/-- The answers store the same values, or complain about the same: about a number of the same
length, or for the same reason between texts that differ in the case of letters only. -/
inductive SameAnswer : Except Error Policy → Except Error Policy → Prop
  | accepted (policy : Policy) : SameAnswer (.ok policy) (.ok policy)
  | numberTooLong (count : Nat) :
      SameAnswer (.error (.numberTooLong count)) (.error (.numberTooLong count))
  | malformed {reason : Reason} {front front' rest rest' : List Char}
      (hfront : SameLetters front front') (hrest : SameLetters rest rest') :
      SameAnswer (.error (.malformed reason front rest)) (.error (.malformed reason front' rest'))

/-- Two complaints of the same kind have the same offset. -/
theorem SameAnswer.offset_eq {e f : Error} (h : SameAnswer (.error e) (.error f)) :
    e.offset = f.offset := by
  cases h with
  | numberTooLong count => rfl
  | malformed hfront hrest => exact hfront.length_eq

/-- Answers that agree in small letters are the same: the texts that they show have the same
letters. -/
theorem sameAnswer_of_lowered {a b : Except Error Policy}
    (h : a.mapError Error.lowered = b.mapError Error.lowered) : SameAnswer a b := by
  -- an error and a policy never agree, nor do two errors of different kinds
  rcases a with e | policy
  · rcases b with f | policy
    · have herror : e.lowered = f.lowered := Except.error.inj h
      rcases e with ⟨reason, front, rest⟩ | count
      · rcases f with ⟨reason', front', rest'⟩ | count
        · obtain ⟨rfl, hfront, hrest⟩ := Error.malformed.inj herror
          exact .malformed (sameLetters_iff.mpr hfront) (sameLetters_iff.mpr hrest)
        · cases herror
      · rcases f with ⟨reason', front', rest'⟩ | count
        · cases herror
        · cases herror
          exact .numberTooLong count
    · cases h
  · rcases b with f | policy'
    · cases h
    · cases h
      exact .accepted policy

/-- **Case makes no difference to a specification.** Two texts that differ in the case of ASCII
letters only are both accepted with the same stored values, or both refused for the same reason at
the same place, or both for a number of the same length. -/
theorem ofSpecification_sameAnswer {s t : String} (h : SameLetters s.toList t.toList) :
    SameAnswer (Policy.ofSpecification s) (Policy.ofSpecification t) ∧
      ∀ e f, Policy.ofSpecification s = .error e → Policy.ofSpecification t = .error f →
        e.offset = f.offset := by
  have hanswer : SameAnswer (Policy.ofSpecification s) (Policy.ofSpecification t) := by
    refine sameAnswer_of_lowered ?_
    rw [← ofSpecification_lowered, ← ofSpecification_lowered, sameLetters_iff.mp h]
  refine ⟨hanswer, fun e f hs ht => ?_⟩
  rw [hs, ht] at hanswer
  exact hanswer.offset_eq

/-- A word that names nothing, behind a clause, in a text with a letter that is not ASCII. -/
theorem ofSpecification_sameAnswer_of_unknown_word :
    SameLetters "Age<=1 us\u00e9r".toList "aGE<=1 US\u00e9R".toList ∧
      Policy.ofSpecification "Age<=1 us\u00e9r" =
        .error (.malformed .unknownWord "Age<=1 ".toList "us\u00e9r".toList) ∧
      SameAnswer (Policy.ofSpecification "Age<=1 us\u00e9r")
        (Policy.ofSpecification "aGE<=1 US\u00e9R") ∧
      ∀ e f, Policy.ofSpecification "Age<=1 us\u00e9r" = .error e →
        Policy.ofSpecification "aGE<=1 US\u00e9R" = .error f → e.offset = f.offset := by
  have hletters : SameLetters "Age<=1 us\u00e9r".toList "aGE<=1 US\u00e9R".toList := by
    decide
  have hunknown : (Policy.ofSpecification "Age<=1 us\u00e9r").map Policy.text =
      .error (.malformed .unknownWord "Age<=1 ".toList "us\u00e9r".toList) := by decide +kernel
  exact ⟨hletters, eq_error_of_map hunknown, ofSpecification_sameAnswer hletters⟩

end PasswordPolicy.Specification
